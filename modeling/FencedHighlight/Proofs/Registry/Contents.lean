import FencedHighlight.Proofs.Registry.History

namespace FencedHighlight

/-!
What a sequence of operations does to the contents of a registry.

Whatever an operation does to the names that it is about makes a new version, so at any
two moments at which the version is the same, so are the contents.  Most operations need
a grammar to begin with, and do nothing without one.
-/

namespace Registry

variable {registry : Registry} {name : String}

/-- The registry after some operations, one after the other. -/
def afterAll (registry : Registry) (operations : List Operation) : Registry :=
  operations.foldl after registry

theorem afterAll_append (registry : Registry) (first second : List Operation) :
    registry.afterAll (first ++ second) = (registry.afterAll first).afterAll second :=
  List.foldl_append

/-- What operations lead to can follow. -/
theorem follows_afterAll (registry : Registry) (operations : List Operation) :
    Follows (registry.afterAll operations) registry := by
  induction operations generalizing registry with
  | nil => exact Follows.refl registry
  | cons operation operations ih =>
      exact (ih (registry.after operation)).trans (amends_after registry operation).follows

theorem follows_of_append {earlier later : List Operation} (begins : earlier <+: later) :
    Follows (registry.afterAll later) (registry.afterAll earlier) := by
  rcases begins with ⟨rest, rfl⟩
  rw [afterAll_append]
  exact follows_afterAll _ rest

theorem Follows.version_le {later earlier : Registry} (follows : Follows later earlier) :
    earlier.version ≤ later.version := by
  rcases follows with same | larger
  · exact Nat.le_of_eq (by rw [same])
  · exact Nat.le_of_lt larger

/-! ## Names that have to be in use -/

/-- The name whose grammar an operation changes or removes. -/
def Operation.target? : Operation -> Option String
  | .remove name => some name
  | .embed host _ _ => some host
  | .embedBefore host _ _ _ => some host
  | .insertBefore host _ _ _ _ => some host
  | .register _ _ _ | .loadToml _ | .loadDirectory _ _ => none

theorem modify_of_absent (absent : registry.contains name = false) (change : Grammar -> Grammar) :
    registry.modify name change = .error (.grammarNotFound name) := by
  have unbound : registry.lookup? name = none :=
    Option.isNone_iff_eq_none.mp (Option.isSome_eq_false_iff.mp absent)
  simp only [modify, grammar, lookup, unbound, bind, Except.bind]

/-- Where there is no grammar to change or to remove, nothing changes. -/
theorem after_of_absent {operation : Operation} (targets : operation.target? = some name)
    (absent : registry.contains name = false) : registry.after operation = registry := by
  cases operation with
  | register => cases targets
  | loadToml => cases targets
  | loadDirectory => cases targets
  | remove target =>
      cases targets
      rw [after, remove, absent, if_neg Bool.false_ne_true]
  | embed host delimiters language =>
      cases targets
      rw [after, embed, modify_of_absent absent]
      rfl
  | embedBefore host before delimiters language =>
      cases targets
      rw [after, embedBefore, insertBefore, modify_of_absent absent]
      rfl
  | insertBefore host before name inner rules =>
      rcases Option.some.inj targets with rfl
      have absentToo : (registry.keep inner).contains host = false := absent
      rw [after, insertBefore, modify_of_absent absentToo]
      rfl

/-! ## Versions -/

/-- Versions identify contents.  However some operations end, none of them makes the
version smaller, and at any two moments with the same version the same names are bound to
the same grammars.  An operation on one name leaves all others bound to what they were
bound to; and without a grammar to change or to remove it leaves everything as it is. -/
theorem contents_of_version (registry : Registry) (operations : List Operation) :
    (∀ earlier later, earlier <+: later -> later <+: operations ->
      (registry.afterAll earlier).version ≤ (registry.afterAll later).version) ∧
    (∀ first second, first <+: operations -> second <+: operations ->
      (registry.afterAll first).version = (registry.afterAll second).version ->
      registry.afterAll first = registry.afterAll second) ∧
    ∀ operation : Operation,
      (registry.after operation).store.Extends registry.store ∧
      (∀ other, ¬ operation.Names other ->
        (registry.after operation).lookup? other = registry.lookup? other) ∧
      ∀ name, operation.target? = some name -> registry.contains name = false ->
        registry.after operation = registry := by
  refine ⟨fun _ _ begins _ => (follows_of_append begins).version_le, ?_, ?_⟩
  · intro first second begins beginsToo same
    rcases List.prefix_or_prefix_of_prefix begins beginsToo with shorter | longer
    · exact ((follows_of_append shorter).eq_of_version_eq same.symm).symm
    · exact (follows_of_append longer).eq_of_version_eq same
  · intro operation
    have changed := amends_after registry operation
    exact ⟨changed.store, changed.others, fun _ => after_of_absent⟩

/-- A removal of a name that is not in use, an embedding in a grammar that is missing, and
a file whose only embedding has no delimiters. -/
def fruitless : List Operation :=
  [.remove "y", .embed "y" (Delimiters.pair "(" ")") "x", .loadToml undelimited]

theorem contents_of_version_fruitless :
    (wordsOnly.afterAll (fruitless.take 0)).version =
        (wordsOnly.afterAll (fruitless.take 2)).version ∧
      wordsOnly.afterAll (fruitless.take 0) = wordsOnly.afterAll (fruitless.take 2) ∧
      (wordsOnly.after (.remove "y")) = wordsOnly ∧
      (wordsOnly.after (.register "y" [] Grammar.empty)).lookup? "x" = wordsOnly.lookup? "x" ∧
      wordsOnly.version ≤ (wordsOnly.afterAll fruitless).version := by
  have contents := contents_of_version wordsOnly fruitless
  have same : (wordsOnly.afterAll (fruitless.take 0)).version =
      (wordsOnly.afterAll (fruitless.take 2)).version := by decide
  refine ⟨same, ?_, ?_, ?_, ?_⟩
  · exact contents.2.1 _ _ (List.take_prefix 0 _) (List.take_prefix 2 _) same
  · exact (contents.2.2 (.remove "y")).2.2 "y" rfl (by decide)
  · have apart : "x" ≠ "y" := by decide
    exact (contents.2.2 (.register "y" [] Grammar.empty)).2.1 "x" apart
  · exact contents.1 [] fruitless List.nil_prefix (List.prefix_refl _)

end Registry
end FencedHighlight
