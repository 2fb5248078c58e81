import RecordMap.Numeral.Shortest

/-!
# Writing doubles as text

`FloatStyle` holds the decisions of one written form of a double: where the exponent form
takes over from positional digits, whether an integral value keeps a `.0`, and the words for
the special values. `FloatStyle.render` writes the shortest digits of `Shortest` in that form.
Two forms are used: `FloatStyle.plain`, positional always and without `.0`, and
`FloatStyle.debug`, which keeps a point and switches to an exponent outside `[1e-4, 1e16)`.
-/

namespace RecordMap.Numeral

/-- The digits written positionally, without sign: `⟨15, -1⟩` is `1.5`, `⟨1, 3⟩` is `1000`. -/
def Digits.positional (d : Digits) : String :=
  let ds := decimalChars d.digits
  if d.exponent ≥ 0 then
    String.ofList (ds ++ List.replicate d.exponent.toNat '0')
  else
    let frac := (-d.exponent).toNat
    if ds.length > frac then
      String.ofList (ds.take (ds.length - frac) ++ '.' :: ds.drop (ds.length - frac))
    else
      String.ofList ('0' :: '.' :: List.replicate (frac - ds.length) '0' ++ ds)

/-- The digits in exponent form, without sign: `⟨15, -301⟩` is `1.5e-300`, `⟨1, 16⟩` is `1e16`. -/
def Digits.scientific (d : Digits) : String :=
  let ds := decimalChars d.digits
  let n : Int := d.exponent + ds.length - 1
  let mant := match ds with
    | [] => "0"
    | [c] => String.singleton c
    | c :: rest => String.ofList (c :: '.' :: rest)
  mant ++ "e" ++ toString n

/-- The decisions of a written form of doubles. -/
structure FloatStyle where
  /-- Magnitudes below `10 ^ k` (and not zero) take the exponent form. -/
  exponentBelow : Option Int
  /-- Magnitudes from `10 ^ k` up take the exponent form. -/
  exponentFrom : Option Int
  /-- An integral value written positionally ends in `.0`. -/
  keepPoint : Bool
  nanText : String
  infText : String

/-- Positional digits always, no `.0`: `3`, `-0`, `0.1`, `1000000000000000000000`. -/
def FloatStyle.plain : FloatStyle :=
  ⟨none, none, false, "NaN", "inf"⟩

/-- A point always, exponent form below `1e-4` and from `1e16`: `1.0`, `-0.0`, `1e16`. -/
def FloatStyle.debug : FloatStyle :=
  ⟨some (-4), some 16, true, "NaN", "inf"⟩

/-- Whether `mant · 2 ^ exp` is below `10 ^ k`. -/
def belowPower (mant : Nat) (exp : Int) (k : Int) : Bool :=
  compareScaled mant exp 0 1 0 k == .lt

/-- The magnitude `mant · 2 ^ exp` written in the style, without sign. -/
def FloatStyle.magnitude (s : FloatStyle) (mant : Nat) (exp : Int) : String :=
  if mant = 0 then (if s.keepPoint then "0.0" else "0") else
    let d := shortestDigits mant exp
    let small := match s.exponentBelow with
      | some k => belowPower mant exp k
      | none => false
    let large := match s.exponentFrom with
      | some k => !belowPower mant exp k
      | none => false
    if small || large then d.scientific
    else
      let text := d.positional
      if s.keepPoint && d.exponent ≥ 0 then text ++ ".0" else text

/-- A double written in the style. -/
def FloatStyle.render (s : FloatStyle) (x : Float) : String :=
  match FloatShape.ofFloat x with
  | .nan => s.nanText
  | .infinite neg => (if neg then "-" else "") ++ s.infText
  | .finite neg mant exp => (if neg then "-" else "") ++ s.magnitude mant exp

end RecordMap.Numeral
