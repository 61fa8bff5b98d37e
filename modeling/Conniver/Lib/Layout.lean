import Mathlib.Data.List.Basic

/-!
Sequential struct layout as C and Go do it: each field starts at the first offset at or
after the end of the previous field that is a multiple of the field's alignment, and ends
its size later.
-/

namespace Layout

structure Field where
  size : Nat
  align : Nat
  align_pos : 0 < align

def alignUp (a x : Nat) : Nat :=
  (x + a - 1) / a * a

-- where the last field ends, laid out from `start`
def endFrom : Nat → List Field → Nat
  | start, [] => start
  | start, f :: fs => endFrom (alignUp f.align start + f.size) fs

-- the end of the `i`-th field, or of the whole prefix when there are fewer fields
def endOf (fs : List Field) (i : Nat) : Nat :=
  endFrom 0 (fs.take (i + 1))

end Layout
