/-!
# Sizes

The numbers both sides of the link agree on. A ring has 256 cells addressed by one byte, and one
cell always stays free, so that a full ring and an empty one differ. The rest follows from the
three bytes of a frame header.
-/

namespace StreamLink

/-- A run of bytes, oldest first. -/
abbrev Bytes := List UInt8

/-- Cells of one ring; an index is one byte and wraps. -/
abbrev ringSize : Nat := 256

/-- Bytes a ring can hold: one cell stays free. -/
abbrev maxOccupancy : Nat := 255

/-- Length, kind and stream id: one byte each. -/
abbrev headerSize : Nat := 3

/-- The longest payload whose frame fits an empty ring. -/
abbrev maxPayload : Nat := 252

/-- The first stream id that a socket table gives out. The host's ids are odd. -/
abbrev firstStreamId : UInt8 := 1

/-- The distance between neighbouring stream ids. -/
abbrev streamIdStep : UInt8 := 2

/-- The number of odd stream ids. -/
abbrev streamIdSpace : Nat := 128

theorem maxPayload_eq : maxPayload = maxOccupancy - headerSize := rfl

end StreamLink
