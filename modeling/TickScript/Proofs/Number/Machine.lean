import TickScript.Proofs.Number.Single
import TickScript.Proofs.Number.Unpacked

/-! # Singles as machine numbers

    A single becomes a number of the language's type, and a result becomes a single again.  On the
    way nothing changes its kind: what an operation sees is the pattern taken apart (`machine_eq`),
    and a result is a NaN as a single if it is one as a number (`isNaN_ofUnpacked`).
-/

namespace TickScript.Single

open Float.Model (UnpackedFloat)
open Float.Model.UnpackedFloat (unpackSign)
open Unpacked (unpack_pack_unpack isNaN_unpack_pack nonnegative_unpack not_lt_zero)

/-- **The machine number of a pattern**, as operations see it. -/
abbrev machine (s : Single) : UnpackedFloat := s.toFloat32.toModel.unpack

theorem machine_eq (s : Single) : s.machine = UnpackedFloat.unpack .binary32 s.pattern :=
  unpack_pack_unpack s.pattern (by decide)

/-- **The pattern of a machine number.** -/
def ofUnpacked (f : UnpackedFloat) : Single := ⟨⟨UnpackedFloat.pack .binary32 f⟩⟩

theorem isNaN_ofUnpacked {f : UnpackedFloat} (number : f.isNaN = false) :
    (ofUnpacked f).isNaN = false := by
  cases still : (ofUnpacked f).isNaN with
  | false => rfl
  | true => exact (isNaN_unpack still).symm.trans ((isNaN_unpack_pack f).trans number)

/-! ## The sign -/

theorem unpackSign_of_isNegative {s : Single} (plus : s.isNegative = false) :
    unpackSign s.pattern = 0#1 := by
  rw [isNegative_eq, decide_eq_false_iff_not, Nat.not_lt, ← toNat_unpackSign] at plus
  exact BitVec.eq_of_toNat_eq (Nat.le_zero.mp plus)

/-- **A pattern without a sign** is not below zero. -/
theorem lt_zero {s : Single} (plus : s.isNegative = false) : s.lt zero = false := by
  have above : s.machine.lt (.zero .positive) = false := by
    rw [machine_eq]
    exact not_lt_zero (nonnegative_unpack (unpackSign_of_isNegative plus))
  exact decide_eq_false (Bool.eq_false_iff.mp above)

end TickScript.Single
