import InterfaceDiscovery.Number.Shortest

namespace InterfaceDiscovery

structure DecimalStyle where
  /-- Positional notation is used when the decimal point position `k` (the value is
  `0.digits · 10^k`) satisfies `lowest < k ≤ highest`. -/
  lowest : Int
  highest : Int
  exponentWidth : Nat
  infinity : String
  notANumber : String

def DecimalStyle.standard : DecimalStyle :=
  ⟨-4, 16, 2, "inf", "nan"⟩

namespace DecimalStyle

def padded (width : Nat) (s : String) : String :=
  String.ofList (List.replicate (width - s.length) '0') ++ s

def layout (st : DecimalStyle) (digits : String) (k : Int) : String :=
  let n := digits.length
  if st.lowest < k && k ≤ st.highest then
    if k ≤ 0 then "0." ++ String.ofList (List.replicate (-k).toNat '0') ++ digits
    else if n ≤ k.toNat then digits ++ String.ofList (List.replicate (k.toNat - n) '0') ++ ".0"
    else String.ofList (digits.toList.take k.toNat) ++ "." ++ String.ofList (digits.toList.drop k.toNat)
  else
    let e := k - 1
    let mantissa := if n == 1 then digits
      else String.ofList (digits.toList.take 1) ++ "." ++ String.ofList (digits.toList.drop 1)
    mantissa ++ "e" ++ (if e < 0 then "-" else "+") ++ padded st.exponentWidth (toString e.natAbs)

def text (st : DecimalStyle) (x : Float) : String :=
  match Binary.ofFloat? x with
  | none => if x.isNaN then st.notANumber else if x < 0 then "-" ++ st.infinity else st.infinity
  | some b =>
    let sign := if b.negative then "-" else ""
    if b.significand == 0 then sign ++ "0.0"
    else
      let (d, p) := Binary.shortest b.significand b.exponent
      let digits := toString d
      sign ++ st.layout digits (p + digits.length)

end DecimalStyle

end InterfaceDiscovery
