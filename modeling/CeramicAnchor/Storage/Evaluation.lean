import CeramicAnchor.Concurrency.TotalCorrectness
import CeramicAnchor.Storage.Transaction

/-
This file gives the evaluations of a transaction body whose statements are not rejected.
-/

namespace CeramicAnchor.Storage
open Concurrency

variable {Row Value A : Type} {unique : List (Row → Value)} [DecidableEq Value] {key : Row → Value}
  {snapshot : Table Row Value unique} {progress last : Progress Row Value unique}
  {body residue : Body Row Value unique A}

/-- The statements of a body are answered at once. -/
def promptSetting (key : Row → Value) (snapshot : Table Row Value unique) :
    Setting (Statement Row Value unique) Statement.Reply Failure (Progress Row Value unique) where
  perform := (snapshotSetting key snapshot).perform
  rely := Eq
  rely_refl _ := rfl
  rely_trans := Eq.trans

/-- Every statement has an answer. -/
theorem Statement.ready (statement : Statement Row Value unique) (progress : Progress Row Value unique) :
    ∃ value after, (promptSetting key snapshot).perform statement progress (.ok value) after := by
  cases statement with
  | select chosen => exact ⟨(snapshot.publish key progress.pending).rows.filter chosen, _, .refl _, rfl⟩
  | clock => exact ⟨progress.clock, _, rfl, rfl⟩
  | update keys edit =>
      exact ⟨_, _, (snapshot.publish key progress.pending).targets key keys, .refl _, rfl, rfl⟩

theorem prompt_clock {trace : List (Event (Statement Row Value unique) Statement.Reply Failure
      (Progress Row Value unique))}
      (path : Path (promptSetting key snapshot) body progress trace residue last) :
    last.clock = progress.clock := by
  induction path with
  | stop program state => rfl
  | @perform op next reply start before after last trace residue others performed _ ih =>
      obtain rfl : start = before := others
      refine ih.trans ?_
      match reply, performed with
      | .ok value, answers =>
          cases op with
          | select chosen =>
              obtain ⟨_, rfl⟩ := answers
              rfl
          | clock =>
              obtain ⟨_, rfl⟩ := answers
              rfl
          | update keys edit =>
              obtain ⟨_, _, _, rfl⟩ := answers
              rfl
      | .error error, ⟨_, same⟩ => rw [same]

/-- What a specification says of the values of a body can be used where the body comes to one. -/
theorem ensures_prompt {post post' : A → Progress Row Value unique → Prop}
    {raise : Failure → Progress Row Value unique → Prop}
    (ensures : Ensures (promptSetting key snapshot) post body progress)
    (spec : Sat (snapshotSetting key snapshot) (fun _ _ _ _ => True) post' raise body progress) :
    Ensures (promptSetting key snapshot) post' body progress := by
  induction body generalizing progress with
  | done value => exact spec
  | fail error => exact ensures.elim
  | halted => exact ensures.elim
  | ask statement next ih =>
      rintro before rfl
      obtain ⟨ready, rest⟩ := ensures progress rfl
      refine ⟨ready, fun value after performed => ih (.ok value) (rest value after performed) ?_⟩
      exact (spec progress ((snapshotSetting key snapshot).rely_refl progress) (.ok value) after performed).2

/-- A resolute body comes to a value. -/
theorem ensures_resolute (resolute : body.Resolute) :
    Ensures (promptSetting key snapshot) (fun _ _ => True) body progress := by
  induction body generalizing progress with
  | done value => trivial
  | fail error => exact resolute.elim
  | halted => exact resolute.elim
  | ask statement next ih =>
      rintro before rfl
      exact ⟨statement.ready progress, fun value after _ => ih (.ok value) (resolute value)⟩

/-- A body that comes to a value has an evaluation that takes no time. -/
theorem evaluates_prompt {post : A → Progress Row Value unique → Prop} {earliest : Int}
    (ensures : Ensures (promptSetting key snapshot) post body (.fresh earliest)) :
    ∃ value last, Evaluates key snapshot earliest body value last ∧ last.clock = earliest := by
  obtain ⟨trace, value, last, path, _⟩ := ensures_path ensures
  refine ⟨value, last, ⟨trace, path.mono (fun _ _ _ _ performed => performed) ?_⟩, prompt_clock path⟩
  rintro first second rfl
  exact (snapshotSetting key snapshot).rely_refl first

end CeramicAnchor.Storage
