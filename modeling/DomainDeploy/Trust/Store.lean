/-!
# Trust stores

Where a process finds the certificates that it trusts: a file and the password of that file.
-/

namespace DomainDeploy

/-- A trust store as it is published to processes. -/
structure TrustStore where
  location : Option String
  password : Option String
deriving DecidableEq, Repr

namespace TrustStore

/-- Nothing is published. -/
def nowhere : TrustStore := ⟨none, none⟩

/-- The variable that names the file. -/
def locationVariable : String := "SSL_CERT_FILE"

/-- The variable that holds the password. -/
def passwordVariable : String := "SSL_CERT_PASSWORD"

/-- The variables that hand the store to a child process. -/
def childVariables (store : TrustStore) : List (String × String) :=
  (store.location.map (locationVariable, ·)).toList ++
    (store.password.map (passwordVariable, ·)).toList

/-- The store that a process finds in the variables it inherits. -/
def ofVariables (inherited : String → Option String) : TrustStore :=
  ⟨inherited locationVariable, inherited passwordVariable⟩

/-- What `wanted` leaves open stays as it is. -/
def overlay (wanted current : TrustStore) : TrustStore :=
  ⟨wanted.location <|> current.location, wanted.password <|> current.password⟩

@[simp] theorem childVariables_nowhere : nowhere.childVariables = [] := rfl

end TrustStore

end DomainDeploy
