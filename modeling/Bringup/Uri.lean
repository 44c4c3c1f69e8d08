/-!
# User info of a URI

* `Uri.maskUserInfo` : a URI with its user info replaced by `***:***`;
* `Uri.throughScheme?` : the part up to the first `://`;
* `Uri.fromLastAt?` : the part from the last `@` on.

The user info is everything between these two parts, so it may hold `@` and `/` itself.  A text without
an `@` has no user info.  Where no `://` shows its start, all but the first two characters is hidden.
-/

namespace Bringup.Uri

/-- The text up to the first `://`, which is included. -/
def throughScheme? : List Char → Option (List Char)
  | ':' :: '/' :: '/' :: _ => some [':', '/', '/']
  | c :: cs => (throughScheme? cs).map (c :: ·)
  | [] => none

/-- The text from the last `@` on, which is included. -/
def fromLastAt? : List Char → Option (List Char)
  | [] => none
  | c :: cs =>
    match fromLastAt? cs with
    | some tail => some tail
    | none => if c = '@' then some ('@' :: cs) else none

/-- What stands for a user name and a secret. -/
def mask : List Char := ['*', '*', '*', ':', '*', '*', '*']

/-- The characters of a URI with its user info replaced. -/
def maskUserInfo (uri : List Char) : List Char :=
  match fromLastAt? uri with
  | none => uri
  | some tail => (throughScheme? uri).getD (uri.take 2) ++ mask ++ tail

/-- A URI with its user info replaced. -/
def masked (uri : String) : String := String.ofList (maskUserInfo uri.toList)

theorem fromLastAt?_eq_none_iff {cs : List Char} : fromLastAt? cs = none ↔ '@' ∉ cs := by
  induction cs with
  | nil => simp [fromLastAt?]
  | cons c cs ih =>
    cases h : fromLastAt? cs with
    | some tail =>
      have : '@' ∈ cs := by
        by_cases hm : '@' ∈ cs
        · exact hm
        · rw [ih.2 hm] at h; cases h
      simp [fromLastAt?, h, this]
    | none =>
      have : '@' ∉ cs := ih.1 h
      by_cases hc : c = '@'
      · simp [fromLastAt?, h, hc]
      · simp [fromLastAt?, h, hc, this, Ne.symm hc]

end Bringup.Uri
