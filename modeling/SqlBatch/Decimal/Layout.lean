import SqlBatch.Decimal.Shortest
/- How a decimal is spelled. A layout says which decimals are written out place
   by place and whether a positive exponent carries its sign; all else is common:
   a number written out has at least one place after the point, and one with an
   exponent has a single digit before it.
   Correspondence:
     `format_finite` in `write_value_float` ↔ `NumberLayout.text` -/
namespace SqlBatch

/-- The choices that a number format makes. -/
structure NumberLayout where
  /-- The least power of the first digit that is written out. -/
  least : Int
  /-- The least power of the first digit that is too large to be written out. -/
  limit : Int
  /-- A positive exponent is written with a plus. -/
  plus : Bool
  deriving DecidableEq, Repr

namespace NumberLayout

/-- The number whose digits are `ds`, the first of them worth its value times `10 ^ e`. -/
def spell (layout : NumberLayout) (ds : List Char) (e : Int) : List Char :=
  if layout.least ≤ e && e < layout.limit then
    if e < 0 then
      '0' :: '.' :: (List.replicate (-e - 1).toNat '0' ++ ds)
    else
      let whole := e.toNat + 1
      if ds.length ≤ whole then ds ++ List.replicate (whole - ds.length) '0' ++ ['.', '0']
      else ds.take whole ++ '.' :: ds.drop whole
  else
    let fraction := if ds.length ≤ 1 then [] else '.' :: ds.drop 1
    let sign := if e < 0 then ['-'] else if layout.plus then ['+'] else []
    ds.take 1 ++ fraction ++ 'e' :: sign ++ (toString e.natAbs).toList

/-- The text of a finite double by its shortest decimal. -/
def text (layout : NumberLayout) (x : Binary64) : String :=
  let sign := if x.isNegative then ['-'] else []
  if x.isZero then String.ofList (sign ++ ['0', '.', '0'])
  else
    let d := x.shortest
    let ds := (toString d.digits).toList
    String.ofList (sign ++ layout.spell ds (d.exponent + ds.length - 1))

end NumberLayout

end SqlBatch
