/-!
The instances the arithmetic of this library elaborates to. A power of a natural number or of an
integer is the core power (`instPowNat`), and the zero of a sum is the numeral zero
(`Zero.ofOfNat0`), ahead of any algebraic structure imported beside the library: a definition
then denotes the same term whether it is built alone or together with a larger library.
-/
attribute [default_instance 20000] instPowNat
attribute [instance (20000)] instPowNat
attribute [instance (20000)] Zero.ofOfNat0
