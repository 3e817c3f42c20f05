/-
Zks.Format.Text — the few `str` methods of Rust's standard library that the
transports call on URLs and hop descriptors, over `List Char`.

* `splitChar` — `str::split(',')`: the pieces between the separators, an
  empty piece between two adjacent separators or at either end.
* `replaceAll` — `str::replace(from, to)`: every non-overlapping match of a
  non-empty `from`, leftmost first, replaced.
* `trimEndMatches` — `str::trim_end_matches(c)`.
-/
import Zks.Format.Json

namespace Zks.Text

/-- `str::split(sep)` on a single-character separator. -/
def splitChar (sep : Char) : List Char → List (List Char)
  | [] => [[]]
  | c :: cs =>
    if c = sep then [] :: splitChar sep cs
    else match splitChar sep cs with
      | [] => [[c]]
      | p :: ps => (c :: p) :: ps

/-- The matches of `pat` replaced by `rep` in a text, leftmost first; `fuel`
bounds the number of characters visited, and the length of the text is
enough. -/
def replaceAux (pat rep : List Char) : Nat → List Char → List Char
  | 0, cs => cs
  | _ + 1, [] => []
  | fuel + 1, c :: cs =>
    if pat ≠ [] ∧ pat.isPrefixOf (c :: cs) then
      rep ++ replaceAux pat rep fuel ((c :: cs).drop pat.length)
    else c :: replaceAux pat rep fuel cs

/-- `str::replace(from, to)` for a non-empty `from`. -/
def replaceAll (s pat rep : String) : String :=
  String.mk (replaceAux pat.toList rep.toList s.length s.toList)

/-- `str::trim_end_matches(c)`. -/
def trimEndMatches (s : String) (c : Char) : String :=
  String.mk (s.toList.reverse.dropWhile (· = c)).reverse

/-- `str::starts_with`. -/
def startsWith (s pre : String) : Bool := pre.toList.isPrefixOf s.toList

example : splitChar ',' "a,b,,c".toList = ["a".toList, "b".toList, [], "c".toList] := rfl
example : replaceAll "http://x/?u=http://y" "http://" "ws://" = "ws://x/?u=ws://y" := rfl

end Zks.Text
