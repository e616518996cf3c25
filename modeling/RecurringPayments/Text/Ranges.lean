/-!
Sets of characters given as ranges of code points, and runs of characters with a common distance
to their lower-case forms.
-/
namespace RecurringPayments.Text

abbrev Ranges := List (Nat × Nat)

def Ranges.has (rs : Ranges) (c : Char) : Bool :=
  rs.any fun r => r.1 ≤ c.toNat && c.toNat ≤ r.2

structure LowerRun where
  first : Nat
  last : Nat
  step : Nat
  shift : Int

def LowerRun.has (r : LowerRun) (c : Char) : Bool :=
  r.first ≤ c.toNat && c.toNat ≤ r.last && (c.toNat - r.first) % r.step == 0

def LowerRun.apply (r : LowerRun) (c : Char) : Char := Char.ofNat (c.toNat + r.shift).toNat

end RecurringPayments.Text
