import Traceability.Json
import Traceability.Text.Range
set_option autoImplicit false

/-!
# JSON: places

Positions, ranges and locations have the same form in reports and in editor messages.
-/

namespace Traceability.Json

open Text

/-- A position. -/
def ofPosition (p : Position) : Json := object [("line", ofNat p.line), ("character", ofNat p.character)]

/-- A range. -/
def ofRange (r : Range) : Json := object [("start", ofPosition r.start), ("end", ofPosition r.stop)]

/-- A location. -/
def ofLocation (l : Location) : Json := object [("uri", text l.uri), ("range", ofRange l.range)]

end Traceability.Json
