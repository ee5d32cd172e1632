import Palette.Text.Digit

/-!
Colors. A color has four channels of one byte; numbers from outside are checked channel by channel,
and all channels that fail are reported.
-/

namespace Palette

structure Rgba where
  red : UInt8
  green : UInt8
  blue : UInt8
  alpha : UInt8 := 255
  deriving DecidableEq, Repr

namespace Rgba

/-- The form `#aarrggbb`. -/
def toArgbHex (c : Rgba) : String :=
  "#" ++ Text.hex 2 c.alpha.toNat ++ Text.hex 2 c.red.toNat ++ Text.hex 2 c.green.toNat ++
    Text.hex 2 c.blue.toNat

inductive Channel where
  | red
  | green
  | blue
  | alpha
  deriving DecidableEq, Repr

inductive ChannelFault where
  | missing
  | notNumber
  | unreadable
  | fractional
  | infinite
  /-- A number too long to be read, or a decimal beyond 64 bits. -/
  | unbounded
  | tooSmall
  | tooLarge
  deriving DecidableEq, Repr

abbrev Faults := List (Channel × ChannelFault)

def byte (value : Int) : Except ChannelFault UInt8 :=
  if value < 0 then .error .tooSmall
  else if value > 255 then .error .tooLarge
  else .ok (UInt8.ofNat value.toNat)

def fault (channel : Channel) : Except ChannelFault UInt8 → Faults
  | .ok _ => []
  | .error f => [(channel, f)]

/-- A color from its channels, or all that is wrong with them. -/
def ofResults (red green blue alpha : Except ChannelFault UInt8) : Except Faults Rgba :=
  match red, green, blue, alpha with
  | .ok r, .ok g, .ok b, .ok a => .ok ⟨r, g, b, a⟩
  | _, _, _, _ =>
      .error (fault .red red ++ fault .green green ++ fault .blue blue ++ fault .alpha alpha)

def ofInts (red green blue alpha : Int) : Except Faults Rgba :=
  ofResults (byte red) (byte green) (byte blue) (byte alpha)

end Rgba

end Palette
