/-!
# Powers

Powers of numbers are those of the core library, whatever else a module imports.
-/

namespace DocumentMapping

attribute [default_instance 20000] instPowNat
attribute [scoped instance (2000)] instPowNat

end DocumentMapping
