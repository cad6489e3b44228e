import SoundLedger.Binary64.Basic

/-!
# Loudness

Conversion between linear amplitudes and decibels relative to full scale. Stored readings are never
converted; these values are for show.

The logarithm and the power are the machine's own, everything around them is exact.
-/

namespace SoundLedger.Binary64

def toFloat (x : Binary64) : Float := Float.ofBits x.bits

def ofFloat (x : Float) : Binary64 := ⟨x.toBits⟩

/-- The decibels relative to full scale of an amplitude; minus infinity for an amplitude of zero or
below. -/
def toDecibels (amplitude : Binary64) : Binary64 :=
  if amplitude.notPositive then infinity true
  else ofFloat (20.0 * amplitude.toFloat.log10)

/-- The amplitude of a number of decibels relative to full scale. -/
def fromDecibels (decibels : Binary64) : Binary64 :=
  ofFloat ((10.0 : Float).pow (decibels.toFloat / 20.0))

end SoundLedger.Binary64
