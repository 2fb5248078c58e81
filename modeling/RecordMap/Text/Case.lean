import RecordMap.Text.CaseTable

/-!
# Lowercase text

`lowercase` maps every capital letter to its small letter by the Unicode case tables. The
capital I with dot above becomes a small i followed by a combining dot above, and a capital
sigma becomes the final small sigma `ς` when it ends a word: a cased letter comes before it
and none after it, case-ignorable characters skipped on both sides. Every other character
stands as it is.
-/

namespace RecordMap.Text

/-- Whether a code point lies in one of some ranges. -/
def inRanges (rs : Array (Nat × Nat)) (n : Nat) : Bool := rs.any fun (lo, hi) => lo ≤ n && n ≤ hi

/-- Whether a character may stand inside a word without ending it. -/
def isCaseIgnorable (c : Char) : Bool := inRanges caseIgnorable c.toNat

/-- Whether a character has case and is not case-ignorable. -/
def isCased (c : Char) : Bool := inRanges cased c.toNat

/-- Whether the first character that is not case-ignorable is cased. -/
def casedAfterIgnorable (cs : List Char) : Bool :=
  match cs.dropWhile isCaseIgnorable with
  | c :: _ => isCased c
  | [] => false

/-- The small letter of a capital with a one-character small form. -/
def lowerCode? (n : Nat) : Option Nat :=
  (lowerRuns.find? fun r => r.lo ≤ n && n ≤ r.hi && (n - r.lo) % r.stride == 0).map fun r =>
    ((n : Int) + r.delta).toNat

/-- The small letters of one character, outside the rule for sigma. -/
def lowerChar (c : Char) : List Char :=
  if c.toNat == 0x130 then ['i', Char.ofNat 0x307]
  else match lowerCode? c.toNat with
    | some n => [Char.ofNat n]
    | none => [c]

/-- Lowercases characters, `before` holding the ones already passed, nearest first. -/
def lowerChars (before : List Char) : List Char → List Char
  | [] => []
  | c :: rest =>
    let here :=
      if c.toNat == 0x3A3 then
        if casedAfterIgnorable before && !casedAfterIgnorable rest then [Char.ofNat 0x3C2]
        else [Char.ofNat 0x3C3]
      else lowerChar c
    here ++ lowerChars (c :: before) rest

/-- The text with every capital letter made small. -/
def lowercase (s : String) : String := String.ofList (lowerChars [] s.toList)

/-- The text with ASCII capitals made small, as the engine's `lower` does. -/
def asciiLower (s : String) : String := String.ofList (s.toList.map Char.toLower)

/-- The text with ASCII small letters made capital, as the engine's `upper` does. -/
def asciiUpper (s : String) : String := String.ofList (s.toList.map Char.toUpper)

end RecordMap.Text
