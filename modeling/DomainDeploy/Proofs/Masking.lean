import DomainDeploy.Proofs.Session
import Mathlib.Data.List.Infix
import Mathlib.Data.List.TakeWhile

/-!
# What a masked command line gives away

A command line holds two secrets, the password of the administrator and the pass phrase of a trust
store, and `masked` is to show neither.  Of a pass phrase nothing shows.  Of a password nothing
shows either, unless it reads like a property: then only what stands behind its first `=` is masked,
as if the rest were the name of a property (`exposed`).  The masked lines of two passwords are the
same exactly when the passwords expose the same (`masked_eq_iff`).
-/

namespace DomainDeploy

/-- Two configurations that agree on everything but a password and a pass phrase, none of which is
empty. -/
structure Configuration.DiffersInSecrets (c c' : Configuration) : Prop where
  rest : c' = { c with
    password := c'.password
    trust := { c.trust with password := c'.trust.password } }
  password : c.password ≠ "" ∧ c'.password ≠ ""
  passPhrase : c.trust.password = c'.trust.password ∨
    ∃ p p', c.trust.password = some p ∧ c'.trust.password = some p' ∧ p ≠ "" ∧ p' ≠ ""

namespace ToolCommand

/-! ### Masked arguments -/

/-- An argument that is not the password, as it is shown. -/
def shown (argument : String) : String :=
  if isSecretProperty argument then maskedArgument argument else argument

theorem maskedFrom_append (index i : Nat) (xs ys : List String) :
    maskedFrom index i (xs ++ ys) =
      maskedFrom index i xs ++ maskedFrom index (i + xs.length) ys := by
  induction xs generalizing i with
  | nil => simp [maskedFrom]
  | cons x xs ih =>
      have hindex : i + 1 + xs.length = i + (xs.length + 1) := by omega
      rw [List.cons_append, maskedFrom, maskedFrom, ih, List.cons_append, List.length_cons, hindex]

/-- Where the password does not stand, every argument is shown for itself. -/
theorem maskedFrom_eq_map {index i : Nat} {xs : List String}
    (h : ∀ j, i ≤ j → j < i + xs.length → j ≠ index) : maskedFrom index i xs = xs.map shown := by
  induction xs generalizing i with
  | nil => rfl
  | cons x xs ih =>
      have hx : i ≠ index := h i (Nat.le_refl i) (by simp)
      have hxs : ∀ j, i + 1 ≤ j → j < i + 1 + xs.length → j ≠ index := by
        intro j hj hlt
        exact h j (by omega) (by simp only [List.length_cons]; omega)
      rw [maskedFrom, ih hxs, List.map_cons, shown]
      simp [hx]

/-- A command line is shown with each argument for itself around the password. -/
theorem masked_build (c : Configuration) (action : ToolAction) (name : String)
    (source : Option String) (target : String) (store : TrustStore) :
    ((build c action name source target).withTrustStore store).masked =
      " ".intercalate (c.tool.program :: (leading c).map shown ++ maskedArgument c.password ::
        (trailing c action name source target).map shown) := by
  have hleading : maskedFrom (leading c).length 0 (leading c) = (leading c).map shown :=
    maskedFrom_eq_map (by omega)
  have htrailing : maskedFrom (leading c).length ((leading c).length + 1)
      (trailing c action name source target) =
        (trailing c action name source target).map shown :=
    maskedFrom_eq_map (by omega)
  simp only [masked, withTrustStore, build]
  rw [maskedFrom_append, hleading, Nat.zero_add, maskedFrom, htrailing]
  simp

theorem intercalate_inj_at {separator x y : String} {before after : List String} :
    separator.intercalate (before ++ x :: after) = separator.intercalate (before ++ y :: after) ↔
      x = y := by
  have hafter : separator.intercalate (x :: after) = separator.intercalate (y :: after) ↔
      x = y := by
    cases after with
    | nil => simp
    | cons next rest => simp [String.append_assoc, String.append_left_inj]
  cases before with
  | nil => exact hafter
  | cons first rest =>
      rw [String.intercalate_append_of_ne_nil (by simp) (by simp),
        String.intercalate_append_of_ne_nil (by simp) (by simp), String.append_right_inj, hafter]

/-! ### Pass phrases -/

theorem holds_iff {part whole : List Char} : holds part whole = true ↔ part <:+: whole := by
  induction whole with
  | nil => simp [holds]
  | cons x whole ih =>
      rw [holds, Bool.or_eq_true, List.isPrefixOf_iff_prefix, ih, List.infix_cons_iff]

/-- Of a property that hands over a pass phrase the name is shown. -/
theorem shown_of_passPhrase {key : String} (value : String) (hname : '=' ∉ key.toList)
    (hproperty : isProperty key = true) (hphrase : "PassPhrase=".toList <:+: (key ++ "=").toList) :
    shown (key ++ "=" ++ value) = key ++ "=" ++ mask value := by
  have hkey : ∀ c ∈ key.toList, (c != '=') = true := by
    intro c hc
    have hne : c ≠ '=' := fun heq => hname (heq ▸ hc)
    simpa using hne
  have hlist : (key ++ "=" ++ value).toList = key.toList ++ '=' :: value.toList := by simp
  have hwhole : isProperty (key ++ "=" ++ value) = true := by
    rw [isProperty, List.isPrefixOf_iff_prefix] at hproperty ⊢
    rw [hlist]
    exact hproperty.trans (List.prefix_append _ _)
  have hsecret : isSecretProperty (key ++ "=" ++ value) = true := by
    rw [isSecretProperty, hwhole, Bool.true_and, holds_iff, String.toList_append]
    exact hphrase.trans (List.infix_append' [] _ _)
  rw [shown, if_pos hsecret, maskedArgument, hlist, List.dropWhile_append_of_pos hkey,
    List.takeWhile_append_of_pos hkey]
  simp [hwhole]

theorem map_shown_passPhrase {name p : String}
    (hphrase : name = "CustomTrustKeyStorePassPhrase" ∨
      name = "JavaStandardTrustKeyStorePassPhrase") (hp : p ≠ "") :
    (passPhrase name (some p)).map shown = ["-Dweblogic.security." ++ name ++ "=" ++ "********"] := by
  have hargument : passPhrase name (some p) = ["-Dweblogic.security." ++ name ++ "=" ++ p] := by
    have hfilter : (some p).filter (· != "") = some p := by simp [hp]
    rw [passPhrase, hfilter]
    rfl
  rw [hargument, List.map_singleton]
  rcases hphrase with rfl | rfl
  · rw [shown_of_passPhrase p (by decide) (by decide) (by decide)]
    simp [mask, hp]
  · rw [shown_of_passPhrase p (by decide) (by decide) (by decide)]
    simp [mask, hp]

theorem map_shown_leading {c c' : Configuration} (h : c.DiffersInSecrets c') :
    (leading c).map shown = (leading c').map shown := by
  have htrust : (trustProperties c.trust).map shown = (trustProperties c'.trust).map shown := by
    rw [h.rest]
    rcases h.passPhrase with hsame | ⟨p, p', hp, hp', hne, hne'⟩
    · rw [← hsame]
    · unfold trustProperties
      rw [hp, hp']
      cases c.trust.mode with
      | builtIn => rfl
      | demo => rfl
      | custom =>
          simp only [List.map_append, map_shown_passPhrase (.inl rfl) hne,
            map_shown_passPhrase (.inl rfl) hne']
      | standard =>
          simp only [List.map_append, map_shown_passPhrase (.inr rfl) hne,
            map_shown_passPhrase (.inr rfl) hne']
  unfold leading properties
  simp only [List.map_append, htrust]
  rw [h.rest]

/-! ### Passwords -/

/-- What shows of a password that reads like a property: its text up to the first `=`, and whether
nothing stands behind that. -/
def exposed (password : String) : Option (String × Bool) :=
  match password.toList.dropWhile (· != '=') with
  | _ :: value =>
    if isProperty password then
      some (String.ofList (password.toList.takeWhile (· != '=')), value.isEmpty)
    else none
  | [] => none

/-- A password as it is shown. -/
def redacted : Option (String × Bool) → String
  | some (key, isBare) => key ++ "=" ++ if isBare then "" else "********"
  | none => "********"

theorem maskedArgument_eq_redacted {password : String} (hpassword : password ≠ "") :
    maskedArgument password = redacted (exposed password) := by
  have hmask : mask password = "********" := by simp [mask, hpassword]
  unfold maskedArgument exposed
  cases hvalue : password.toList.dropWhile (· != '=') with
  | nil => exact hmask
  | cons separator value =>
      by_cases hproperty : isProperty password = true
      · simp only [hproperty, if_true]
        cases value with
        | nil => rfl
        | cons first rest => simp [redacted, mask]
      · simp only [if_neg hproperty]
        exact hmask

/-- What is taken for the name of a property starts like one and ends before the first `=`. -/
theorem exposed_eq_some {password key : String} {isBare : Bool}
    (h : exposed password = some (key, isBare)) :
    ['-', 'D'] <+: key.toList ∧ ∀ c ∈ key.toList, (c != '=') = true := by
  unfold exposed at h
  split at h
  · split at h
    · rename_i hproperty
      obtain ⟨rest, hrest⟩ := List.isPrefixOf_iff_prefix.1 hproperty
      obtain ⟨rfl, -⟩ := Prod.mk.inj (Option.some.inj h)
      rw [String.toList_ofList, ← hrest]
      refine ⟨by simp, ?_⟩
      intro c hc
      have hne := List.mem_takeWhile_imp hc
      exact hne
    · cases h
  · cases h

theorem redacted_some_ne_none {password key : String} {isBare : Bool}
    (h : exposed password = some (key, isBare)) :
    redacted (some (key, isBare)) ≠ redacted none := by
  intro heq
  obtain ⟨⟨rest, hrest⟩, -⟩ := exposed_eq_some h
  have hlist := congrArg String.toList heq
  simp [redacted, ← hrest] at hlist

theorem redacted_some_inj {key key' : String} {isBare isBare' : Bool}
    (hkey : ∀ c ∈ key.toList, (c != '=') = true) (hkey' : ∀ c ∈ key'.toList, (c != '=') = true)
    (h : redacted (some (key, isBare)) = redacted (some (key', isBare'))) :
    (key, isBare) = (key', isBare') := by
  have hlist : ∀ k b, (redacted (some (k, b))).toList =
      k.toList ++ '=' :: (if b then "" else "********").toList := by simp [redacted]
  have hshown := congrArg String.toList h
  rw [hlist, hlist] at hshown
  -- the first `=` of the line is the one behind the name
  have hname := congrArg (List.takeWhile (· != '=')) hshown
  have hbehind := congrArg (List.dropWhile (· != '=')) hshown
  rw [List.takeWhile_append_of_pos hkey, List.takeWhile_append_of_pos hkey'] at hname
  rw [List.dropWhile_append_of_pos hkey, List.dropWhile_append_of_pos hkey'] at hbehind
  have hsame : key = key' := String.toList_inj.1 (by simpa using hname)
  cases isBare <;> cases isBare' <;> simp_all

/-- What is shown of a password tells what it exposes. -/
theorem redacted_inj {password password' : String}
    (h : redacted (exposed password) = redacted (exposed password')) :
    exposed password = exposed password' := by
  cases hp : exposed password with
  | none =>
      cases hp' : exposed password' with
      | none => rfl
      | some pair' =>
          rw [hp, hp'] at h
          exact (redacted_some_ne_none hp' h.symm).elim
  | some pair =>
      cases hp' : exposed password' with
      | none =>
          rw [hp, hp'] at h
          exact (redacted_some_ne_none hp h).elim
      | some pair' =>
          rw [hp, hp'] at h
          exact congrArg some
            (redacted_some_inj (exposed_eq_some hp).2 (exposed_eq_some hp').2 h)

/-- The masked command lines of two configurations that differ in nothing but their secrets are the
same exactly when the passwords expose the same, whatever else is asked for and whichever trust
stores are published. -/
theorem masked_eq_iff (c c' : Configuration) (h : c.DiffersInSecrets c') (action : ToolAction)
    (name : String) (source : Option String) (target : String) (store store' : TrustStore) :
    ((build c action name source target).withTrustStore store).masked =
        ((build c' action name source target).withTrustStore store').masked ↔
      exposed c.password = exposed c'.password := by
  have hprogram : c'.tool.program = c.tool.program := by rw [h.rest]
  have htrailing :
      trailing c' action name source target = trailing c action name source target := by
    rw [h.rest]
    rfl
  rw [masked_build, masked_build, map_shown_leading h, hprogram, htrailing,
    intercalate_inj_at, maskedArgument_eq_redacted h.password.1,
    maskedArgument_eq_redacted h.password.2]
  constructor
  · exact redacted_inj
  · intro hexposed
    rw [hexposed]

/-- A configuration with a password and the pass phrase of its trust store. -/
def secretive (password passPhrase : String) : Configuration :=
  { Deployer.sample.configuration with
    password
    trust := { Deployer.sample.configuration.trust with password := some passPhrase } }

/-- The command line for an undeploy, as it is logged. -/
def logged (c : Configuration) : String :=
  ((build c .undeploy "foo" none "AdminServer").withTrustStore .nowhere).masked

/-- Two passwords that expose the same are not told apart, and neither are two pass phrases. -/
theorem masked_eq_iff_secretive :
    let c := secretive "-Dwelcome=1" "changeit"
    let c' := secretive "-Dwelcome=2" "changed"
    c.DiffersInSecrets c' ∧ exposed c.password = some ("-Dwelcome", false) ∧
      (logged c = logged c' ↔ exposed c.password = exposed c'.password) := by
  intro c c'
  have differ : c.DiffersInSecrets c' := by
    refine ⟨rfl, by decide, .inr ⟨"changeit", "changed", rfl, rfl, by decide, by decide⟩⟩
  exact ⟨differ, by decide, masked_eq_iff c c' differ .undeploy "foo" none "AdminServer" _ _⟩

/-- A password that reads like a property is told apart from another one, since its beginning is
shown. -/
theorem logged_ne_of_property :
    let c := secretive "-Dwelcome=1" "changeit"
    let c' := secretive "welcome1" "changeit"
    c.DiffersInSecrets c' ∧ maskedArgument c.password = "-Dwelcome=********" ∧
      maskedArgument c'.password = "********" ∧ logged c ≠ logged c' := by
  intro c c'
  have shown : maskedArgument c.password = "-Dwelcome=********" := by decide
  have hidden : maskedArgument c'.password = "********" := by decide
  refine ⟨⟨rfl, by decide, .inl rfl⟩, shown, hidden, ?_⟩
  intro same
  rw [logged, logged, masked_build, masked_build] at same
  have alike : maskedArgument c.password = maskedArgument c'.password := intercalate_inj_at.1 same
  rw [shown, hidden] at alike
  exact absurd alike (by decide)

end ToolCommand

end DomainDeploy
