import StateCheck.Value

/-!
Numbers that bound and weigh strategies, with their text: a truth value counts as 0 or 1 and shows as
itself.
-/

namespace StateCheck

structure Amount where
  value : Int
  shown : String

namespace Amount

def ofInt (n : Int) : Amount := ⟨n, toString n⟩

instance : Coe Int Amount := ⟨ofInt⟩

def ofValue? (v : Value) : Option Amount := v.number?.map fun n => ⟨n, v.shown⟩

end Amount
end StateCheck
