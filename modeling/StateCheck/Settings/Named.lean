/-!
Values by name, in the order in which the names came first.
-/

namespace StateCheck

abbrev Named (α : Type) : Type := List (String × α)

namespace Named
variable {α : Type}

def insert (pairs : Named α) (name : String) (value : α) : Named α :=
  match pairs with
  | [] => [(name, value)]
  | pair :: rest => if pair.1 == name then (name, value) :: rest else pair :: insert rest name value

def union (pairs others : Named α) : Named α :=
  others.foldl (fun pairs pair => pairs.insert pair.1 pair.2) pairs

end Named
end StateCheck
