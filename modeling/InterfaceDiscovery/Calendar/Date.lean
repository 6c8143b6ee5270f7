
namespace InterfaceDiscovery

structure Date where
  year : Int
  month : Nat
  day : Nat
  deriving DecidableEq

namespace Date

def epochDay (d : Date) : Int :=
  let y : Int := if d.month ≤ 2 then d.year - 1 else d.year
  let era := Int.fdiv y 400
  let yoe := y - era * 400
  let mp : Int := (d.month + 9) % 12
  let doy := (153 * mp + 2) / 5 + d.day - 1
  let doe := yoe * 365 + yoe / 4 - yoe / 100 + doy
  era * 146097 + doe - 719468

def weekdayFromSunday (d : Date) : Nat :=
  (Int.emod (d.epochDay + 4) 7).toNat

def dayOfYear (d : Date) : Nat :=
  (d.epochDay - (Date.mk d.year 1 1).epochDay).toNat + 1

def isoWeek (d : Date) : Int × Nat :=
  let wd := (d.weekdayFromSunday + 6) % 7
  let thursday := d.epochDay - wd + 3
  let y := if thursday < (Date.mk d.year 1 1).epochDay then d.year - 1
    else if (Date.mk (d.year + 1) 1 1).epochDay ≤ thursday then d.year + 1 else d.year
  (y, ((thursday - (Date.mk y 1 1).epochDay) / 7).toNat + 1)

def parse? (s : String) : Option Date :=
  match s.splitOn "-" with
  | [y, m, d] =>
    if y.length == 4 && m.length == 2 && d.length == 2 &&
        (y ++ m ++ d).toList.all Char.isDigit then
      let num := fun (t : String) => t.toList.foldl (fun (a : Nat) c => a * 10 + (c.toNat - 48)) 0
      some ⟨num y, num m, num d⟩
    else none
  | _ => none

def weekdayNames : List String :=
  ["Sunday", "Monday", "Tuesday", "Wednesday", "Thursday", "Friday", "Saturday"]

def monthNames : List String :=
  ["January", "February", "March", "April", "May", "June", "July", "August", "September",
   "October", "November", "December"]

end Date

end InterfaceDiscovery
