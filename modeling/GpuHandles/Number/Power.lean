/-!
Powers and sums of whole numbers.

They are those of the core library in every module, whatever else the module sees.
-/

attribute [instance (high)] instPowNat Zero.ofOfNat0
attribute [default_instance 20000] instPowNat
