/-!
# Totals

* `total`: the sum of numbers.
* `total_append`: totals add up.
-/

namespace TextIndex.Number

def total : List Nat → Nat
  | [] => 0
  | value :: rest => value + total rest

@[simp] theorem total_nil : total [] = 0 := rfl

@[simp] theorem total_cons (value : Nat) (rest : List Nat) :
    total (value :: rest) = value + total rest := rfl

@[simp] theorem total_append (first second : List Nat) :
    total (first ++ second) = total first + total second := by
  induction first with
  | nil => simp
  | cons value rest ih => simp [ih, Nat.add_assoc]

end TextIndex.Number
