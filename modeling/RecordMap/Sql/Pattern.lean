import RecordMap.Sql.Bytes

/-!
# Pattern matching: `like` and `glob`

A pattern matches a text when its characters can be lined up with the text's: a wildcard for
any run of characters (`%` or `*`) matches any run, a wildcard for one character (`_` or `?`)
matches exactly one, and any other character matches itself. Both are read as UTF-8 and end at
their first zero byte.

* `like` folds ASCII case, and takes an optional escape character that makes the character
  after it literal. An escape character equal to a wildcard turns that wildcard off.
* `glob` keeps case and has sets: `[abc]`, ranges `[a-z]`, and complements `[^…]`. A `]`
  right after the opening bracket (or after `^`) is a member.

A run wildcard is matched by trying every place where the rest of the pattern could start; the
search stops as soon as the rest cannot match anywhere, which makes matching fast on failure.
-/

namespace RecordMap.Sql

/-- The wildcards and case rule of a pattern language. -/
structure PatternRules where
  /-- The wildcard for any run; 0 when turned off. -/
  matchAll : Nat
  /-- The wildcard for one character; 0 when turned off. -/
  matchOne : Nat
  /-- Whether `[` starts a set. -/
  sets : Bool
  noCase : Bool
  deriving Repr, Inhabited

/-- How an attempt to match ended: matched, failed here, or failed so that no later start of a
run wildcard can match either. -/
inductive MatchResult where
  | matched
  | noMatch
  | hopeless
  deriving Repr, DecidableEq, Inhabited

/-- Reads a character; the end of the bytes reads as 0. -/
def readAt (b : Bytes) : Nat × Bytes := readChar b

/-- An ASCII letter folded to lower case. -/
def lowerCode (c : Nat) : Nat := if 65 ≤ c && c ≤ 90 then c + 32 else c

/-- An ASCII letter folded to upper case. -/
def upperCode (c : Nat) : Nat := if 97 ≤ c && c ≤ 122 then c - 32 else c

/-- Whether a character is in the set that starts the pattern (after its `[`), and the pattern
after the set's closing `]`; `none` when the set is not closed. -/
def setMember (c : Nat) (pat : Bytes) : Option (Bool × Bytes) :=
  let (c2, pat) := readAt pat
  let (invert, c2, pat) := if c2 == 94 then
      let (d, p) := readAt pat
      (true, d, p)
    else (false, c2, pat)
  let (seen, c2, pat) := if c2 == 93 then
      let (d, p) := readAt pat
      (c == 93, d, p)
    else (false, c2, pat)
  match go c seen 0 c2 pat (pat.length + 1) with
  | some (seen, rest) => some (seen != invert, rest)
  | none => none
where
  go (c : Nat) (seen : Bool) (prior : Nat) (c2 : Nat) (pat : Bytes) : Nat → Option (Bool × Bytes)
    | 0 => none
    | fuel + 1 =>
      if c2 == 0 then none
      else if c2 == 93 then some (seen, pat)
      else if c2 == 45 && pat.head? != some 93 && !pat.isEmpty && prior > 0 then
        let (hi, pat) := readAt pat
        let seen := seen || (c ≥ prior && c ≤ hi)
        let (next, pat) := readAt pat
        go c seen 0 next pat fuel
      else
        let seen := seen || c == c2
        let (next, pat) := readAt pat
        go c seen c2 next pat fuel

mutual

/-- Matches the pattern against the text; `esc` is the escape character of `like` (0 for none). -/
def matchFrom (r : PatternRules) (esc : Nat) : Nat → Bytes → Bytes → MatchResult
  | 0, _, _ => .noMatch
  | fuel + 1, pat, str =>
    match pat with
    | [] => if str.isEmpty then .matched else .noMatch
    | _ =>
      let (c, pat) := readAt pat
      if c == r.matchAll && c != 0 then afterRun r esc fuel pat str
      else if r.sets && c == 91 then
        let (d, str) := readAt str
        if d == 0 then .noMatch
        else
          match setMember d pat with
          | some (true, pat) => matchFrom r esc fuel pat str
          | _ => .noMatch
      else if !r.sets && esc != 0 && c == esc then
        match pat with
        | [] => .noMatch
        | _ =>
          let (c, pat) := readAt pat
          let (d, str) := readAt str
          if c == d || (r.noCase && lowerCode c == lowerCode d && c < 128 && d < 128) then
            matchFrom r esc fuel pat str
          else .noMatch
      else
        let (d, str) := readAt str
        if c == d || (r.noCase && lowerCode c == lowerCode d && c < 128 && d < 128) ||
            (c == r.matchOne && c != 0 && d != 0) then
          matchFrom r esc fuel pat str
        else .noMatch

/-- Matches after a run wildcard: further wildcards are taken, then every place where the rest
of the pattern could start is tried. -/
def afterRun (r : PatternRules) (esc : Nat) : Nat → Bytes → Bytes → MatchResult
  | 0, _, _ => .noMatch
  | fuel + 1, pat, str =>
    let (c, rest) := readAt pat
    if pat.isEmpty then .matched
    else if c == r.matchAll && c != 0 then afterRun r esc fuel rest str
    else if c == r.matchOne && c != 0 then
      if str.isEmpty then .hopeless else afterRun r esc fuel rest (readAt str).2
    else if r.sets && c == 91 then trySets r esc fuel pat str
    else if !r.sets && esc != 0 && c == esc then
      match rest with
      | [] => .hopeless
      | _ =>
        let (lit, rest) := readAt rest
        searchFor r esc fuel lit rest str
    else searchFor r esc fuel c rest str

/-- Tries a set at every place of the text. -/
def trySets (r : PatternRules) (esc : Nat) : Nat → Bytes → Bytes → MatchResult
  | 0, _, _ => .noMatch
  | fuel + 1, pat, str =>
    if str.isEmpty then .hopeless
    else
      match matchFrom r esc fuel pat str with
      | .noMatch => trySets r esc fuel pat (skipChar str)
      | other => other

/-- Tries the rest of the pattern after each occurrence of its first character `c` in the
text. -/
def searchFor (r : PatternRules) (esc : Nat) : Nat → Nat → Bytes → Bytes → MatchResult
  | 0, _, _, _ => .noMatch
  | fuel + 1, c, pat, str =>
    if c < 128 then
      let stops : List Nat := if r.noCase then [upperCode c, lowerCode c] else [c]
      match str.dropWhile (fun b => !stops.contains b.toNat) with
      | [] => .hopeless
      | _ :: after =>
        match matchFrom r esc fuel pat after with
        | .noMatch => searchFor r esc fuel c pat after
        | other => other
    else
      match str with
      | [] => .hopeless
      | _ =>
        let (d, after) := readAt str
        if d != c then searchFor r esc fuel c pat after
        else
          match matchFrom r esc fuel pat after with
          | .noMatch => searchFor r esc fuel c pat after
          | other => other

end

/-- Whether a pattern matches a text under the rules, with an escape character (0 for none). -/
def patternMatches (r : PatternRules) (esc : Nat) (pattern text : Bytes) : Bool :=
  let pattern := untilNul pattern
  let text := untilNul text
  let fuel := (pattern.length + 2) * (text.length + 2) + 4
  matchFrom r esc fuel pattern text == .matched

/-- The rules of `like`. -/
def likeRules : PatternRules := ⟨37, 95, false, true⟩

/-- The rules of `glob`. -/
def globRules : PatternRules := ⟨42, 63, true, false⟩

end RecordMap.Sql
