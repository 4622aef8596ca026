import Mathlib

/-!
# Text that crosses a trust boundary

`safe_text.py`: the rejection rules shared by everything that persists or sends text.
-/
namespace AutomationTool.Protocol

/-- mirrors the class of `_CONTROL_OR_BIDI_PATTERN`, safe_text.py:9 -/
def isControlOrBidi (c : Char) : Bool :=
  let n := c.toNat
  n ≤ 0x1f || (0x7f ≤ n && n ≤ 0x9f) || (0x202a ≤ n && n ≤ 0x202e) || (0x2066 ≤ n && n ≤ 0x2069)

/-- mirrors safe_text.py:22-24 -/
def containsControlOrBidi (value : List Char) : Bool := value.any isControlOrBidi

end AutomationTool.Protocol
