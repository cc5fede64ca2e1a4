import Mathlib.Data.List.Induction
import FleetDashboard.Access.PolicyStore
import FleetDashboard.Proofs.Outcome

/-!
# Updates of the policies

The policies in force are those of the last text that was accepted, be it the one that the store was
built from or one of a later update. An update whose text cannot be had or is not accepted fails,
and all is as if it had not been tried.

* `PolicyStore.accepted?`: the text that an update brings, if it is accepted.
* `PolicyStore.textInForce`: the last text that was accepted.
* `PolicyStore.parse_textInForce`: the policies in force after some updates are those of that text.
-/

namespace FleetDashboard

/-- The text that an update brings to a store, if it can be had. Only a store that is read from a
file can read it again. -/
def PolicyUpdate.text? (fromFile : Bool) : PolicyUpdate → Option String
  | .replace text => some text
  | .reload file => if fromFile then file else none

namespace PolicyStore

variable {π : Type} {language : PolicyLanguage π} {store other : PolicyStore π}
  {change : PolicyUpdate} {policies : π} {first : String}

/-- The language accepts a text. -/
def accepts (language : PolicyLanguage π) (text : String) : Bool :=
  (language.parse text).toOption.isSome

/-- The text that an update brings to a store, if it is accepted. -/
def accepted? (language : PolicyLanguage π) (fromFile : Bool) (change : PolicyUpdate) :
    Option String :=
  (change.text? fromFile).filter (accepts language)

/-- The last text that was accepted: that of the last update that brought one, or else the first
one. -/
def textInForce (language : PolicyLanguage π) (fromFile : Bool) (first : String)
    (changes : List PolicyUpdate) : String :=
  (changes.filterMap (accepted? language fromFile)).getLast?.getD first

/-- The store after some updates, the earliest first. -/
def updateAll (language : PolicyLanguage π) (store : PolicyStore π)
    (changes : List PolicyUpdate) : PolicyStore π :=
  changes.foldl (fun store change => (store.update language change).2) store

theorem updateAll_append (store : PolicyStore π) (before after : List PolicyUpdate) :
    store.updateAll language (before ++ after) =
      (store.updateAll language before).updateAll language after :=
  List.foldl_append

/-! ## One update -/

/-- A text is read to its policies if it is accepted, and otherwise the configuration is invalid. -/
theorem read_cases (language : PolicyLanguage π) (text : String) :
    (∃ policies, accepts language text = true ∧ language.parse text = .ok policies ∧
      read language text = .ok policies) ∨
    accepts language text = false ∧ ∃ reason, read language text = .error (.config reason) := by
  unfold accepts read
  cases language.parse text with
  | ok policies => exact Or.inl ⟨policies, rfl, rfl, rfl⟩
  | error reason => exact Or.inr ⟨rfl, _, rfl⟩

/-- An update brings the policies of its text if that is accepted, and otherwise the configuration
is invalid. -/
theorem incoming_cases (language : PolicyLanguage π) (store : PolicyStore π)
    (change : PolicyUpdate) :
    (∃ text policies, accepted? language store.fromFile change = some text ∧
      language.parse text = .ok policies ∧ store.incoming language change = .ok policies) ∨
    accepted? language store.fromFile change = none ∧
      ∃ reason, store.incoming language change = .error (.config reason) := by
  -- an update by a text that can be had comes to reading it
  have hread : ∀ text, change.text? store.fromFile = some text →
      store.incoming language change = read language text →
      (∃ text policies, accepted? language store.fromFile change = some text ∧
        language.parse text = .ok policies ∧ store.incoming language change = .ok policies) ∨
      accepted? language store.fromFile change = none ∧
        ∃ reason, store.incoming language change = .error (.config reason) := by
    intro text htext hincoming
    rw [accepted?, htext, hincoming]
    rcases read_cases language text with ⟨policies, haccepts, hparse, hok⟩ | ⟨haccepts, hflaw⟩
    · exact Or.inl ⟨text, policies, by simp [haccepts], hparse, hok⟩
    · exact Or.inr ⟨by simp [haccepts], hflaw⟩
  cases change with
  | replace text => exact hread text rfl rfl
  | reload file =>
    cases hsource : store.fromFile with
    | false => exact Or.inr ⟨rfl, _, by rw [incoming, hsource]; rfl⟩
    | true =>
      cases file with
      | none => exact Or.inr ⟨rfl, _, by rw [incoming, hsource]; rfl⟩
      | some text =>
        rw [hsource] at hread
        exact hread text rfl (by rw [incoming, hsource]; rfl)

/-- What an update brings depends on where the store is read from, and not on the policies in
force. -/
theorem incoming_congr (h : other.fromFile = store.fromFile) (change : PolicyUpdate) :
    other.incoming language change = store.incoming language change := by
  cases change with
  | replace text => rfl
  | reload file => simp only [incoming, h]

/-- So does whether an update succeeds, and why not. -/
theorem fst_update_congr (h : other.fromFile = store.fromFile) (change : PolicyUpdate) :
    (other.update language change).1 = (store.update language change).1 := by
  unfold update
  rw [incoming_congr h]
  cases store.incoming language change <;> rfl

theorem update_of_ok (h : store.incoming language change = .ok policies) :
    store.update language change = (.ok (), { store with active := policies }) := by
  rw [update, h]

theorem update_of_error {error : ClientError} (h : store.incoming language change = .error error) :
    store.update language change = (.error error, store) := by
  rw [update, h]

/-- An update succeeds if its text is accepted. Otherwise the configuration is invalid, and nothing
changes. -/
theorem update_cases (language : PolicyLanguage π) (store : PolicyStore π)
    (change : PolicyUpdate) :
    ((accepted? language store.fromFile change).isSome ∧
      (store.update language change).1 = .ok ()) ∨
    accepted? language store.fromFile change = none ∧
      ∃ reason, store.update language change = (.error (.config reason), store) := by
  rcases incoming_cases language store change with
    ⟨text, policies, haccepted, -, hincoming⟩ | ⟨haccepted, reason, hincoming⟩
  · exact Or.inl ⟨by rw [haccepted]; rfl, by rw [update_of_ok hincoming]⟩
  · exact Or.inr ⟨haccepted, reason, update_of_error hincoming⟩

@[simp]
theorem fromFile_update (store : PolicyStore π) (change : PolicyUpdate) :
    (store.update language change).2.fromFile = store.fromFile := by
  cases hincoming : store.incoming language change with
  | ok policies => rw [update_of_ok hincoming]
  | error error => rw [update_of_error hincoming]

/-! ## Updates in a row -/

@[simp]
theorem fromFile_updateAll (store : PolicyStore π) (changes : List PolicyUpdate) :
    (store.updateAll language changes).fromFile = store.fromFile := by
  induction changes generalizing store with
  | nil => rfl
  | cons change rest ih => exact (ih _).trans (store.fromFile_update change)

theorem textInForce_append (fromFile : Bool) (first : String) (changes : List PolicyUpdate)
    (change : PolicyUpdate) :
    textInForce language fromFile first (changes ++ [change]) =
      (accepted? language fromFile change).getD (textInForce language fromFile first changes) := by
  unfold textInForce
  rw [List.filterMap_append]
  cases haccepted : accepted? language fromFile change <;> simp [haccepted]

/-- An update that brings no text that is accepted does not matter to what comes later. -/
theorem textInForce_of_not_accepted {fromFile : Bool}
    (h : accepted? language fromFile change = none) (first : String)
    (earlier later : List PolicyUpdate) :
    textInForce language fromFile first (earlier ++ change :: later) =
      textInForce language fromFile first (earlier ++ later) := by
  simp only [textInForce, List.filterMap_append, List.filterMap_cons_none h]

/-- The policies in force are those of the last text that was accepted. -/
theorem parse_textInForce (hfirst : language.parse first = .ok store.active)
    (changes : List PolicyUpdate) :
    language.parse (textInForce language store.fromFile first changes) =
      .ok (store.updateAll language changes).active := by
  induction changes using List.reverseRecOn with
  | nil => exact hfirst
  | append_singleton changes change ih =>
    rw [textInForce_append, updateAll_append]
    show _ = Except.ok ((store.updateAll language changes).update language change).2.active
    rcases incoming_cases language (store.updateAll language changes) change with
      ⟨text, policies, haccepted, hparse, hincoming⟩ | ⟨haccepted, reason, hincoming⟩
    · rw [fromFile_updateAll] at haccepted
      rw [haccepted, update_of_ok hincoming]
      exact hparse
    · rw [fromFile_updateAll] at haccepted
      rw [haccepted, update_of_error hincoming]
      exact ih

/-- A store that was built holds the policies of the text that it was built from. -/
theorem parse_of_built {text : String}
    (h : ofText language text = .ok store ∨ ofFile language (some text) = .ok store) :
    language.parse text = .ok store.active := by
  have hread : ∀ fromFile, (do return { active := ← read language text, fromFile } :
      Except ClientError (PolicyStore π)) = .ok store → language.parse text = .ok store.active := by
    intro fromFile hbuilt
    obtain ⟨policies, hpolicies, hstore⟩ := bind_eq_ok_iff.1 hbuilt
    rw [pure_eq_ok_iff] at hstore
    subst hstore
    rcases read_cases language text with ⟨other, -, hparse, hok⟩ | ⟨-, reason, hflaw⟩
    · rw [hpolicies, Except.ok.injEq] at hok
      exact hok ▸ hparse
    · rw [hpolicies] at hflaw
      cases hflaw
  exact h.elim (hread false) (hread true)

end PolicyStore

end FleetDashboard
