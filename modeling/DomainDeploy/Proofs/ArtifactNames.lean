import Mathlib.Data.List.TakeWhile
import DomainDeploy.Command
import DomainDeploy.FileSystem.Tree
import DomainDeploy.Proofs.Parts
import DomainDeploy.Proofs.Session

/-!
# What an artifact is deployed as

A deployment is found again by its name alone, so the name that a deploy takes from its artifact
must be the one that an undeploy takes from the same path. Both are told by the last component of
the path (`FileSystem.EndsIn`), up to its first dot (`deploymentNameAt?_eq_some_iff`); a name
without dots and slashes is its own name (`deploymentNameAt?_of_isKey`), so that it may be given
instead of the path from then on.
-/

namespace DomainDeploy

namespace FileSystem

/-! ### The last component of a path -/

/-- A text that leads nowhere further: empty components and dots, each behind a slash. -/
def IsIdle (tail : List Char) : Prop :=
  ∃ parts : List (List Char), (∀ part ∈ parts, part = [] ∨ part = ['.']) ∧
    tail = parts.flatMap ('/' :: ·)

/-- The last component of a path, slashes and dots behind it aside. -/
structure EndsIn (path last : String) : Prop where
  nonempty : last ≠ ""
  not_dot : last ≠ "."
  no_slash : '/' ∉ last.toList
  placed : ∃ front tail, path.toList = front ++ (last.toList ++ tail) ∧
    (front = [] ∨ front.getLast? = some '/') ∧ IsIdle tail

variable {path last : String}

theorem staysInPlace_ofList {part : List Char} :
    staysInPlace (String.ofList part) = true ↔ part = [] ∨ part = ['.'] := by
  have hempty : String.ofList part = "" ↔ part = [] := by
    rw [← String.toList_inj, String.toList_ofList]
    rfl
  have hdot : String.ofList part = "." ↔ part = ['.'] := by
    rw [← String.toList_inj, String.toList_ofList]
    rfl
  rw [staysInPlace, Bool.or_eq_true, beq_iff_eq, beq_iff_eq, hempty, hdot]

theorem staysInPlace_eq_false (hne : last ≠ "") (hdot : last ≠ ".") :
    staysInPlace last = false := by
  rw [staysInPlace, Bool.or_eq_false_iff, beq_eq_false_iff_ne, beq_eq_false_iff_ne]
  exact ⟨hne, hdot⟩

/-- The components that say something, the last one at the end. -/
def telling (path : String) : List String := (components path).filter (!staysInPlace ·)

theorem filter_of_idle {parts : List (List Char)}
    (h : ∀ part ∈ parts, part = [] ∨ part = ['.']) :
    (parts.map String.ofList).filter (!staysInPlace ·) = [] := by
  rw [List.filter_eq_nil_iff]
  intro component hcomponent
  obtain ⟨part, hpart, rfl⟩ := List.mem_map.1 hcomponent
  simp [staysInPlace_ofList.2 (h part hpart)]

/-- A component is split off together with the idle ones behind it. -/
theorem splitOn_last {parts : List (List Char)} (hlast : '/' ∉ last.toList)
    (hparts : ∀ part ∈ parts, part = [] ∨ part = ['.']) :
    (last.toList ++ parts.flatMap ('/' :: ·)).splitOn '/' = last.toList :: parts := by
  have hslash : ∀ part ∈ last.toList :: parts, '/' ∉ part := by
    intro part hpart
    rcases List.mem_cons.1 hpart with rfl | hpart
    · exact hlast
    · rcases hparts part hpart with rfl | rfl <;> simp
  have htext := intercalate_append_cons ['/'] [] last.toList parts
  rw [List.nil_append, List.flatMap_nil, List.nil_append] at htext
  simp only [List.singleton_append] at htext
  rw [← htext, List.splitOn_intercalate '/' hslash (List.cons_ne_nil _ _)]

theorem getLast?_telling_of_endsIn (h : EndsIn path last) :
    (telling path).getLast? = some last := by
  obtain ⟨front, tail, hpath, hfront, parts, hparts, rfl⟩ := h.placed
  have hcomponents : ∃ before, components path = before ++ last :: parts.map String.ofList := by
    rcases hfront with rfl | hslash
    · refine ⟨[], ?_⟩
      rw [components, hpath, List.nil_append, splitOn_last h.no_slash hparts]
      simp
    · obtain ⟨front, rfl⟩ := List.getLast?_eq_some_iff.1 hslash
      refine ⟨(front.splitOn '/').map String.ofList, ?_⟩
      rw [components, hpath, List.append_assoc, List.singleton_append,
        List.splitOn_append_cons_self, splitOn_last h.no_slash hparts]
      simp
  obtain ⟨before, hbefore⟩ := hcomponents
  have hstays := staysInPlace_eq_false h.nonempty h.not_dot
  rw [telling, hbefore, List.filter_append, List.filter_cons, hstays, filter_of_idle hparts]
  simp

theorem endsIn_of_getLast?_telling (h : (telling path).getLast? = some last) :
    EndsIn path last := by
  obtain ⟨said, hsaid⟩ := List.getLast?_eq_some_iff.1 h
  obtain ⟨before, rest, hcomponents, -, hrest⟩ := List.filter_eq_append_iff.1 hsaid
  obtain ⟨idle, behind, rfl, -, hlast, hbehind⟩ := List.filter_eq_cons_iff.1 hrest
  rw [← List.append_assoc] at hcomponents
  obtain ⟨front, others, hsplit, -, hothers⟩ := List.map_eq_append_iff.1 hcomponents
  obtain ⟨part, parts, rfl, rfl, rfl⟩ := List.map_eq_cons_iff.1 hothers
  have hparts : ∀ other ∈ parts, other = [] ∨ other = ['.'] := by
    intro other hother
    have hstays := List.filter_eq_nil_iff.1 hbehind (String.ofList other)
      (List.mem_map_of_mem hother)
    exact staysInPlace_ofList.1 (by simpa using hstays)
  have htext : path.toList = front.flatMap (· ++ ['/']) ++ (part ++ parts.flatMap ('/' :: ·)) := by
    have hpath : ['/'].intercalate (path.toList.splitOn '/') = path.toList :=
      List.intercalate_splitOn '/'
    rw [hsplit, intercalate_append_cons] at hpath
    simpa using hpath.symm
  have hmoves : ¬(part = [] ∨ part = ['.']) := by
    rw [← staysInPlace_ofList]
    simpa using hlast
  obtain ⟨hne, hdot⟩ := not_or.1 hmoves
  refine ⟨?_, ?_, ?_, front.flatMap (· ++ ['/']), parts.flatMap ('/' :: ·), by simpa using htext,
    ?_, parts, hparts, rfl⟩
  · simpa using hne
  · rw [ne_eq, ← String.toList_inj, String.toList_ofList]
    exact hdot
  · rw [String.toList_ofList]
    have hpart : part ∈ path.toList.splitOn '/' := by simp [hsplit]
    exact not_mem_of_mem_splitOn hpart
  · rcases front.eq_nil_or_concat with rfl | ⟨first, component, rfl⟩
    · exact .inl rfl
    · exact .inr (by simp)

theorem fileName?_eq_some_iff : fileName? path = some last ↔ EndsIn path last ∧ last ≠ ".." := by
  change (telling path).getLast?.filter (· != "..") = some last ↔ _
  rw [Option.filter_eq_some_iff, bne_iff_ne]
  constructor
  · rintro ⟨h, hdots⟩
    exact ⟨endsIn_of_getLast?_telling h, hdots⟩
  · rintro ⟨h, hdots⟩
    exact ⟨getLast?_telling_of_endsIn h, hdots⟩

end FileSystem

/-! ### Names of deployments -/

/-- A text that a deployment can be found by. -/
structure IsKey (name : String) : Prop where
  nonempty : name ≠ ""
  no_dot : '.' ∉ name.toList
  no_slash : '/' ∉ name.toList

/-- The name is a component, or what stands before its first dot. -/
def IsStemOf (name component : String) : Prop :=
  component = name ∨ ∃ rest, component = name ++ "." ++ rest

variable {path name component : String}

theorem isStemOf_iff : IsStemOf name component ↔
    component.toList = name.toList ∨ ∃ rest, component.toList = name.toList ++ '.' :: rest := by
  have hdot : ".".toList = ['.'] := rfl
  constructor
  · rintro (rfl | ⟨rest, rfl⟩)
    · exact .inl rfl
    · refine .inr ⟨rest.toList, ?_⟩
      rw [String.toList_append, String.toList_append, hdot, List.append_assoc,
        List.singleton_append]
  · rintro (h | ⟨rest, h⟩)
    · exact .inl (String.toList_inj.1 h)
    · refine .inr ⟨String.ofList rest, ?_⟩
      rw [← String.toList_inj, String.toList_append, String.toList_append, hdot,
        String.toList_ofList, List.append_assoc, List.singleton_append, h]

/-- The name up to the first dot has no dot and stands at the front. -/
theorem deploymentName_eq_iff :
    deploymentName component = name ↔ '.' ∉ name.toList ∧ IsStemOf name component := by
  rw [isStemOf_iff, deploymentName, ← String.toList_inj, String.toList_ofList]
  have hplain {cs : List Char} (h : '.' ∉ cs) : ∀ c ∈ cs, (c != '.') = true := by
    intro c hc
    rw [bne_iff_ne]
    rintro rfl
    exact h hc
  constructor
  · intro h
    refine ⟨fun hdot => ?_, ?_⟩
    · rw [← h] at hdot
      simpa using List.mem_takeWhile_imp hdot
    · have hparts := List.takeWhile_append_dropWhile (p := (· != '.')) (l := component.toList)
      have hstop := List.head?_dropWhile_not (· != '.') component.toList
      rw [h] at hparts
      cases hdrop : component.toList.dropWhile (· != '.') with
      | nil => exact .inl (by rw [← hparts, hdrop, List.append_nil])
      | cons c rest =>
          rw [hdrop] at hparts hstop
          obtain rfl : c = '.' := by simpa using hstop
          exact .inr ⟨rest, hparts.symm⟩
  · rintro ⟨hdot, h | ⟨rest, h⟩⟩
    · rw [h]
      exact List.takeWhile_eq_self_iff.2 (hplain hdot)
    · rw [h, List.takeWhile_append_of_pos (hplain hdot), List.takeWhile_cons_of_neg (by simp),
        List.append_nil]

/-- A name without dots at the front of a component tells it from the directory above. -/
theorem IsStemOf.ne_dots (h : IsStemOf name component) (hkey : IsKey name) : component ≠ ".." := by
  rintro rfl
  obtain ⟨c, cs, hname⟩ := List.exists_cons_of_ne_nil
    (by simpa using hkey.nonempty : name.toList ≠ [])
  have hfirst : "..".toList.head? = some c := by
    rcases isStemOf_iff.1 h with h | ⟨rest, h⟩ <;> simp [h, hname]
  obtain rfl : '.' = c := Option.some.inj hfirst
  exact hkey.no_dot (by simp [hname])

/-- The name of a deployment is what its path ends in, up to the first dot, unless that is
nothing. -/
theorem deploymentNameAt?_eq_some_iff : deploymentNameAt? path = some name ↔
    IsKey name ∧ ∃ component, FileSystem.EndsIn path component ∧ IsStemOf name component := by
  simp only [deploymentNameAt?, deploymentNameAt, Option.filter_eq_some_iff,
    Option.map_eq_some_iff, bne_iff_ne, FileSystem.fileName?_eq_some_iff, deploymentName_eq_iff]
  constructor
  · rintro ⟨⟨component, ⟨hends, -⟩, hdot, hstem⟩, hne⟩
    refine ⟨⟨hne, hdot, fun hslash => hends.no_slash ?_⟩, component, hends, hstem⟩
    rcases isStemOf_iff.1 hstem with h | ⟨rest, h⟩
    · rwa [h]
    · rw [h]
      exact List.mem_append_left _ hslash
  · rintro ⟨hkey, component, hends, hstem⟩
    exact ⟨⟨component, ⟨hends, hstem.ne_dots hkey⟩, hkey.no_dot, hstem⟩, hkey.nonempty⟩

/-- A key is a path to itself. -/
theorem IsKey.endsIn (h : IsKey name) : FileSystem.EndsIn name name where
  nonempty := h.nonempty
  not_dot := by
    rintro rfl
    exact h.no_dot (by decide)
  no_slash := h.no_slash
  placed := ⟨[], [], by simp, .inl rfl, [], by simp, rfl⟩

theorem deploymentNameAt?_of_isKey (h : IsKey name) : deploymentNameAt? name = some name :=
  deploymentNameAt?_eq_some_iff.2 ⟨h, name, h.endsIn, .inl rfl⟩

/-! ### Deploying and undeploying -/

/-- The arguments ask to undeploy what a text names. -/
structure AsksToUndeploy (arguments : List (String × String)) (text : String) : Prop where
  no_deploy : arguments.lookup "deploy" = none
  undeploy : arguments.lookup "undeploy" = some text

variable {files : FileSystem} {arguments : List (String × String)} {text : String}

theorem DeploymentRequest.ofArtifact_eq_ok_iff (there : files.holds path = true) {target : String}
    {request : DeploymentRequest} : ofArtifact files path target = .ok request ↔
      ∃ name, deploymentNameAt? path = some name ∧ request = ⟨name, path, target⟩ := by
  rw [ofArtifact, if_pos there]
  cases deploymentNameAt? path with
  | none => simp
  | some name => simp [eq_comm]

theorem Command.ofArguments_eq_ok_iff (asked : AsksToUndeploy arguments text) {c : Configuration}
    {command : Command} : ofArguments arguments c = .ok command ↔
      ∃ name, deploymentNameAt? text = some name ∧
        command = .undeploy name (targetOf arguments c) := by
  simp only [ofArguments, asked.no_deploy, asked.undeploy]
  cases deploymentNameAt? text with
  | none => simp
  | some name => simp [eq_comm]

/-- Deploying an artifact and undeploying its path agree on the name of the deployment, and on
whether there is one; given by its name, the same deployment is undeployed. -/
theorem ofArtifact_agrees_ofArguments (there : files.holds path = true)
    (asked : AsksToUndeploy arguments path) (target : String) (c : Configuration) :
    ((∃ request, DeploymentRequest.ofArtifact files path target = .ok request) ↔
      ∃ command, Command.ofArguments arguments c = .ok command) ∧
    ∀ request command, DeploymentRequest.ofArtifact files path target = .ok request →
      Command.ofArguments arguments c = .ok command →
        command = .undeploy request.name (Command.targetOf arguments c) ∧ IsKey request.name ∧
        (∃ component, FileSystem.EndsIn path component ∧ IsStemOf request.name component) ∧
        ∀ arguments' c', AsksToUndeploy arguments' request.name →
          Command.ofArguments arguments' c' =
            .ok (.undeploy request.name (Command.targetOf arguments' c')) := by
  simp only [DeploymentRequest.ofArtifact_eq_ok_iff there, Command.ofArguments_eq_ok_iff asked]
  constructor
  · constructor
    · rintro ⟨_, name, hname, -⟩
      exact ⟨_, name, hname, rfl⟩
    · rintro ⟨_, name, hname, -⟩
      exact ⟨_, name, hname, rfl⟩
  · rintro _ _ ⟨name, hname, rfl⟩ ⟨name', hname', rfl⟩
    obtain rfl : name = name' := Option.some.inj (hname.symm.trans hname')
    obtain ⟨hkey, hcomponent⟩ := deploymentNameAt?_eq_some_iff.1 hname
    refine ⟨rfl, hkey, hcomponent, fun arguments' c' asked' => ?_⟩
    exact (Command.ofArguments_eq_ok_iff asked').2 ⟨name, deploymentNameAt?_of_isKey hkey, rfl⟩

/-- The directory of an exploded archive, named in a roundabout way. -/
theorem ofArtifact_agrees_ofArguments_exploded :
    let files := (FileTree.ofPaths [("apps/foo.v2.war/WEB-INF/web.xml", .file [])]).view
    let path := "apps//foo.v2.war/."
    let c := Deployer.sample.configuration
    (files.holds path = true ∧ AsksToUndeploy [("undeploy", path)] path ∧
      DeploymentRequest.ofArtifact files path "cluster" = .ok ⟨"foo", path, "cluster"⟩ ∧
      Command.ofArguments [("undeploy", path)] c = .ok (.undeploy "foo" "AdminServer") ∧
      AsksToUndeploy [("undeploy", "foo"), ("target", "cluster")] "foo") ∧
    IsKey "foo" ∧ (∃ component, FileSystem.EndsIn path component ∧ IsStemOf "foo" component) ∧
    Command.ofArguments [("undeploy", "foo"), ("target", "cluster")] c =
      .ok (.undeploy "foo" "cluster") := by
  intro files path c
  have there : files.holds path = true := by decide
  have asked : AsksToUndeploy [("undeploy", path)] path := ⟨rfl, rfl⟩
  have named : deploymentNameAt? path = some "foo" := by decide
  have request : DeploymentRequest.ofArtifact files path "cluster" =
      .ok ⟨"foo", path, "cluster"⟩ :=
    (DeploymentRequest.ofArtifact_eq_ok_iff there).2 ⟨"foo", named, rfl⟩
  have command : Command.ofArguments [("undeploy", path)] c =
      .ok (.undeploy "foo" "AdminServer") :=
    (Command.ofArguments_eq_ok_iff asked).2 ⟨"foo", named, rfl⟩
  have asked' : AsksToUndeploy [("undeploy", "foo"), ("target", "cluster")] "foo" := ⟨rfl, rfl⟩
  obtain ⟨-, hkey, hcomponent, hname⟩ :=
    (ofArtifact_agrees_ofArguments there asked "cluster" c).2 _ _ request command
  exact ⟨⟨there, asked, request, command, asked'⟩, hkey, hcomponent, hname _ c asked'⟩

end DomainDeploy
