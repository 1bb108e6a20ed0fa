import Vignette.Failure
import Vignette.Number.Nearest
import Vignette.Picture.Basic

/-!
# Cropping to a window

Browsers do not always render a window at exactly its height. A picture is cropped back to the
window's proportions: as many rows are kept from the top as the picture's width times the window's
height over its width, and rows are only ever taken away. The quotient and the product are each
rounded to 53 binary digits before the number of rows is rounded down.
-/

namespace Vignette

open Number

/-- The number of rows that a picture of this width has at the window's proportions. -/
def proportionalRows (width : Nat) (window : Size) : Nat :=
  if h : 0 < window.width.toNat then
    let ratio := nearest53 ⟨window.height.toNat, window.width.toNat, h⟩
    (nearest53 (Fraction.scale width ratio)).floor
  else 0

namespace Picture

/-- The number of rows that are kept for a window. -/
def keptRows (p : Picture) (window : Size) : Nat :=
  min (proportionalRows p.width window) p.height

/-- The picture without the rows below the window's proportions. -/
def cropTo (p : Picture) (window : Size) : Except PictureFailure Picture :=
  if window.isDegenerate then .error (.degenerate window)
  else if p.keptRows window = 0 then .error (.emptyCrop p.size)
  else .ok (p.keepRows (UInt32.ofNat (p.keptRows window)))

end Picture

end Vignette
