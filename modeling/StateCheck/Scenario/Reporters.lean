import StateCheck.Run

/-!
Reporters that note what they were told.
-/

namespace StateCheck.Scenario

def listing : Reporter where
  name := "ListReporter"
  report r := Act.modify (· ++ [r.summary])

def broken : Reporter where
  name := "BrokenReporter"
  report _ := do
    Act.modify (· ++ ["called"])
    Act.raise (.ofText .os "disk full")

end StateCheck.Scenario
