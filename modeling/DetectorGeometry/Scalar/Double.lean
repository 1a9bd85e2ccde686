import DetectorGeometry.Scalar.Basic

namespace DetectorGeometry.Double

instance : Scalar Float where
  zero := 0
  one := 1
  natCast := Float.ofNat
  decideLE := inferInstance
  decideLT := inferInstance
  decimal mantissa exponent := Float.ofScientific mantissa (exponent < 0) exponent.natAbs
  largest := Float.ofBits 0x7FEFFFFFFFFFFFFF
  pi := Float.ofBits 0x400921FB54442D18
  isFinite := Float.isFinite
  sqrt := Float.sqrt

instance : Trigonometry Float where
  sin := Float.sin
  cos := Float.cos

end DetectorGeometry.Double
