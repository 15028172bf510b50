/-!
Contract: powers of whole numbers.

Owns: the reading of `^` on naturals and integers, which is the power that the core library
computes in every module, whatever algebra a module imports besides.

Does not own: laws of powers.
-/

attribute [instance (10000), default_instance 10000] instPowNat
