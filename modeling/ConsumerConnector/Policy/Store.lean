import ConsumerConnector.Policy.Acceptance

/-!
The policies a consumer accepts: defaults, and more for single business partners. In each scope a
policy id is held once, and the policies stand in the order in which they were added last.
-/

namespace ConsumerConnector.Policy

structure Store where
  defaults : List AcceptedPolicy
  byPartner : Dictionary (List AcceptedPolicy)

namespace Store

def ofDefaults (defaults : List AcceptedPolicy) : Store := ⟨defaults, ∅⟩

/-- A scope without a policy id. -/
def without (id : String) (scope : List AcceptedPolicy) : List AcceptedPolicy :=
  scope.filter (·.id ≠ id)

def placed (p : AcceptedPolicy) (scope : List AcceptedPolicy) : List AcceptedPolicy :=
  without p.id scope ++ [p]

def addDefault (s : Store) (p : AcceptedPolicy) : Store :=
  { s with defaults := placed p s.defaults }

def own (s : Store) (partner : String) : List AcceptedPolicy :=
  (s.byPartner.get? partner).getD []

def add (s : Store) (partner : String) (p : AcceptedPolicy) : Store :=
  { s with byPartner := s.byPartner.insert partner (placed p (s.own partner)) }

/-- What a removal answers: whether there was anything to take out. -/
def holds (s : Store) (id : String) : Bool :=
  s.defaults.any (·.id = id) || s.byPartner.entries.any fun scope => scope.2.any (·.id = id)

/-- Takes a policy id out of every scope; a partner without policies is forgotten. -/
def remove (s : Store) (id : String) : Store :=
  { defaults := without id s.defaults
    byPartner := (s.byPartner.map (without id)).filter fun _ scope => !scope.isEmpty }

def policiesFor (s : Store) (partner : String) : List AcceptedPolicy :=
  s.defaults ++ s.own partner

/-- The policies of a partner that still hold. -/
def validFor (s : Store) (partner : String) (now : Timestamp) : List AcceptedPolicy :=
  (s.policiesFor partner).filter (·.isValidAt now)

def isValid (s : Store) (offered : Policy) (partner : String) : Bool :=
  offered.isAccepted (s.policiesFor partner)

/-- An offer that was accepted once, but not by the policies that still hold. -/
def isExpired (s : Store) (offered : Policy) (partner : String) (now : Timestamp) : Bool :=
  s.isValid offered partner && !offered.isAccepted (s.validFor partner now)

end Store

end ConsumerConnector.Policy
