import FencedHighlight.Proofs.Registry.Installation

namespace FencedHighlight
namespace Registry

/-!
Versions identify contents.

An operation on a registry is about certain names and leaves the bindings of all
others alone, even if it fails half way.  It either leaves the registry as it was
or gives it a larger version.  So among the registries that follow one another in
a history, those of one version are the same, however many operations have failed.
-/

/-- An operation on a registry.  Rules may refer to grammars that have no name;
these are kept first. -/
inductive Operation where
  | register (name : String) (inner : List Grammar) (grammar : Grammar)
  | remove (name : String)
  | embed (host : String) (delimiters : Delimiters) (language : String)
  | embedBefore (host before : String) (delimiters : Delimiters) (language : String)
  | insertBefore (host before name : String) (inner : List Grammar) (rules : List Rule)
  | loadToml (text : String)
  | loadDirectory (files : Files Id) (directory : String)

/-- Keep grammars without binding a name to them. -/
def keep (registry : Registry) (grammars : List Grammar) : Registry :=
  { registry with
    store := grammars.foldl (fun store grammar => (store.add grammar).1) registry.store }

/-- The registry that an operation leads to, whether it succeeds or not. -/
def after (registry : Registry) : Operation -> Registry
  | .register name inner grammar => (registry.keep inner).register name grammar
  | .remove name => registry.remove name
  | .embed host delimiters language =>
      (registry.embed host delimiters language).toOption.getD registry
  | .embedBefore host before delimiters language =>
      (registry.embedBefore host before delimiters language).toOption.getD registry
  | .insertBefore host before name inner rules =>
      ((registry.keep inner).insertBefore host before name rules).toOption.getD registry
  | .loadToml text => (registry.loadToml text).1
  | .loadDirectory files directory => (Registry.loadDirectory files registry directory).run.1

/-- Whether one registry can follow another one: it is the same, or has a larger
version. -/
def Follows (later earlier : Registry) : Prop :=
  later = earlier ∨ earlier.version < later.version

theorem Follows.refl (registry : Registry) : Follows registry registry :=
  Or.inl rfl

theorem Follows.trans {first second third : Registry} (later : Follows third second)
    (earlier : Follows second first) : Follows third first := by
  rcases later with same | larger
  · rw [same]
    exact earlier
  · rcases earlier with same | smaller
    · rw [← same]
      exact Or.inr larger
    · exact Or.inr (Nat.lt_trans smaller larger)

/-! ## What operations on some names do -/

/-- The names that an operation is about. -/
def Operation.Names : Operation -> String -> Prop
  | .register name _ _, other => other = name
  | .remove name, other => other = name
  | .embed host _ _, other => other = host
  | .embedBefore host _ _ _, other => other = host
  | .insertBefore host _ _ _ _, other => other = host
  | .loadToml text, other => ∃ file, GrammarFile.parse? text = some file ∧ file.name = other
  | .loadDirectory files _, other => ∃ path text file, files.read path = .ok text ∧
      GrammarFile.parse? text = some file ∧ file.name = other

/-- What has been done to a registry, if it was about certain names only.  The registry can
follow the one before, all other names are bound to the same grammars, and no grammar has
become another one. -/
structure Amends (names : String -> Prop) (before after : Registry) : Prop where
  follows : Follows after before
  store : after.store.Extends before.store
  others : ∀ other, ¬ names other -> after.lookup? other = before.lookup? other

variable {registry changed : Registry} {name : String} {names : String -> Prop}

theorem Amends.refl (registry : Registry) : Amends names registry registry :=
  ⟨.refl registry, .refl _, fun _ _ => rfl⟩

theorem Amends.trans {first second third : Registry} (earlier : Amends names first second)
    (later : Amends names second third) : Amends names first third :=
  ⟨later.follows.trans earlier.follows, later.store.trans earlier.store,
    fun other apart => (later.others other apart).trans (earlier.others other apart)⟩

/-- Registrations under a name make a new version and change nothing but this name. -/
theorem Rebound.amends {registrations : Nat}
    (rebound : Rebound name (registrations + 1) registry changed) (named : names name) :
    Amends names registry changed := by
  refine ⟨Or.inr ?_, rebound.store, fun other apart => ?_⟩
  · rw [rebound.version]
    exact Nat.lt_add_of_pos_right (Nat.succ_pos registrations)
  · exact rebound.others other fun same => apart (same ▸ named)

/-- What fails leaves the registry to the next operation as it was. -/
theorem amends_toOption_getD {result : Except HighlightError Registry}
    (amends : ∀ changed, result = .ok changed -> Amends names registry changed) :
    Amends names registry (result.toOption.getD registry) := by
  cases result with
  | error fault => exact .refl registry
  | ok changed => exact amends changed rfl

theorem extends_keep (registry : Registry) (grammars : List Grammar) :
    (registry.keep grammars).store.Extends registry.store := by
  induction grammars generalizing registry with
  | nil => exact .refl _
  | cons grammar grammars ih =>
      have kept := ih { registry with store := (registry.store.add grammar).1 }
      exact kept.trans (GrammarStore.extends_add registry.store grammar)

theorem amends_remove (registry : Registry) (named : names name) :
    Amends names registry (registry.remove name) := by
  unfold remove
  split
  · refine ⟨Or.inr (Nat.lt_succ_self _), .refl _, fun other apart => ?_⟩
    have different : other ≠ name := fun same => apart (same ▸ named)
    exact Grammar.lookup_filter different registry.bindings
  · exact .refl registry

theorem amends_installEmbeddings (named : names name) (embeddings : List EmbeddingDefinition)
    (registry : Registry) :
    Amends names registry (installEmbeddings name registry embeddings).1 := by
  induction embeddings generalizing registry with
  | nil => exact .refl registry
  | cons embedding rest ih =>
      unfold installEmbeddings
      cases installed : registry.installEmbedding name embedding with
      | error fault => exact .refl registry
      | ok changed => exact ((rebound_of_installEmbedding installed).amends named).trans (ih changed)

/-- A grammar file is about its own name, whether it can be installed or not. -/
theorem amends_install (registry : Registry) {file : GrammarFile} (named : names file.name) :
    Amends names registry (registry.install file).1 := by
  unfold install
  cases registered : registry.registerFile file with
  | error fault => exact .refl registry
  | ok changed =>
      exact ((rebound_of_registerFile registered).amends named).trans
        (amends_installEmbeddings named file.embeddings changed)

theorem amends_loadToml (registry : Registry) {text : String}
    (named : ∀ file, GrammarFile.parse? text = some file -> names file.name) :
    Amends names registry (registry.loadToml text).1 := by
  unfold loadToml
  split
  · rename_i file read
    exact amends_install registry (named file read)
  · exact .refl registry

theorem amends_loadPaths {files : Files Id}
    (named : ∀ path text file, files.read path = .ok text ->
      GrammarFile.parse? text = some file -> names file.name)
    (paths : List String) (registry : Registry) :
    Amends names registry (loadPaths files registry paths).run.1 := by
  induction paths generalizing registry with
  | nil => exact .refl registry
  | cons path paths ih =>
      unfold loadPaths
      simp only [bind, pure]
      cases found : files.read path with
      | error fault => exact .refl registry
      | ok text =>
          have first := amends_loadToml registry fun file => named path text file found
          simp only
          cases loaded : registry.loadToml text with
          | mk changed result =>
              rw [loaded] at first
              cases result with
              | error fault => exact first
              | ok name => exact first.trans (ih changed)

/-- Every operation leads to a registry that can follow, and changes nothing but the names
that it is about. -/
theorem amends_after (registry : Registry) (operation : Operation) :
    Amends operation.Names registry (registry.after operation) := by
  cases operation with
  | register name inner grammar =>
      have rebound := rebound_register (registry.keep inner) name grammar
      exact (rebound.of_extends (extends_keep registry inner)).amends rfl
  | remove name => exact amends_remove registry rfl
  | embed host delimiters language =>
      exact amends_toOption_getD fun _ succeeds => (rebound_of_modify succeeds).amends rfl
  | embedBefore host before delimiters language =>
      exact amends_toOption_getD fun _ succeeds => (rebound_of_modify succeeds).amends rfl
  | insertBefore host before name inner rules =>
      refine amends_toOption_getD fun changed succeeds => ?_
      have rebound : Rebound host 1 (registry.keep inner) changed := rebound_of_modify succeeds
      exact (rebound.of_extends (extends_keep registry inner)).amends rfl
  | loadToml text =>
      exact amends_loadToml registry fun file read => ⟨file, read, rfl⟩
  | loadDirectory files directory =>
      unfold after loadDirectory
      simp only [bind, pure]
      cases files.list directory with
      | error fault => exact .refl registry
      | ok listed =>
          exact amends_loadPaths
            (fun path text file found read => ⟨path, text, file, found, read, rfl⟩) _ registry

/-! ## Histories -/

/-- The registries that have followed one another by operations, newest first. -/
inductive History : List Registry -> Prop where
  | start (registry : Registry) : History [registry]
  | same {registry : Registry} {earlier : List Registry}
      (history : History (registry :: earlier)) :
      History (registry :: registry :: earlier)
  | operation {registry : Registry} {earlier : List Registry} (operation : Operation)
      (history : History (registry :: earlier)) :
      History (registry.after operation :: registry :: earlier)

/-- What can follow the newest registry can follow those before it. -/
theorem pairwise_cons {later newest : Registry} {earlier : List Registry}
    (follows : Follows later newest) (ordered : (newest :: earlier).Pairwise Follows) :
    (later :: newest :: earlier).Pairwise Follows := by
  refine List.pairwise_cons.mpr ⟨?_, ordered⟩
  intro older member
  rcases List.mem_cons.mp member with same | among
  · rw [same]
    exact follows
  · exact follows.trans ((List.pairwise_cons.mp ordered).1 older among)

/-- In a history, each registry can follow all those before it. -/
theorem History.pairwise {registries : List Registry} (history : History registries) :
    registries.Pairwise Follows := by
  induction history with
  | start registry => exact List.pairwise_singleton _ _
  | same _ ih => exact pairwise_cons (Follows.refl _) ih
  | operation operation _ ih => exact pairwise_cons (amends_after _ operation).follows ih

theorem Follows.eq_of_version_eq {later earlier : Registry} (follows : Follows later earlier)
    (same : later.version = earlier.version) : later = earlier := by
  rcases follows with equal | larger
  · exact equal
  · omega

/-- The registries of a history are known by their versions. -/
theorem History.eq_of_version_eq {registries : List Registry}
    (history : History registries) {first second : Registry}
    (firstListed : first ∈ registries) (secondListed : second ∈ registries)
    (same : first.version = second.version) : first = second := by
  have known : registries.Pairwise fun first second =>
      first.version = second.version -> first = second :=
    history.pairwise.imp Follows.eq_of_version_eq
  have known' : registries.Pairwise fun second first =>
      first.version = second.version -> first = second :=
    known.imp fun equal same => (equal same.symm).symm
  exact known.forall_of_forall_of_flip (fun _ _ _ => rfl) known' firstListed secondListed same

end Registry
end FencedHighlight
