import ConsumerConnector.Json.Tree
import ConsumerConnector.Proofs.Json.Scanning

/-!
A value whose numbers are integers comes back from its text, as long as its containers are not nested too
deep to be read.
-/

namespace ConsumerConnector.Json

open Json.Tree

variable {frames : List Frame} {n : Nat}

/-- What is read where a value is awaited is put into the innermost container. -/
def Builds (ts : List Token) (t : Tree) (frames : List Frame) : Prop :=
  ∀ closable, ts.foldlM Tree.step ⟨frames, .value closable⟩ = some (put frames t)

theorem close_of_length_lt (h : frames.length < maxDepth) (t : Tree) : close frames t = put frames t := by
  have hempty : (frames.drop (maxDepth - 1)).isEmpty = true :=
    List.isEmpty_iff.2 (List.drop_eq_nil_of_le (Nat.le_pred_of_lt h))
  rw [close, if_pos hempty]

/-- Items are added to an open array, all but the first after a comma. -/
theorem foldlM_itemTokens {item : Json} {rest : List Json}
    (h : ∀ j ∈ item :: rest, ∀ done, Builds j.tokens j.toTree (.array done :: frames))
    (done : List Tree) (closable : Bool) :
    (itemTokens (item :: rest)).foldlM Tree.step ⟨.array done :: frames, .value closable⟩ =
      some ⟨.array ((itemTrees (item :: rest)).reverse ++ done) :: frames, .separator⟩ := by
  induction rest generalizing item done closable with
  | nil => exact (List.forall_mem_cons.1 h).1 done closable
  | cons next rest ih =>
    obtain ⟨hitem, hrest⟩ := List.forall_mem_cons.1 h
    have hput : item.tokens.foldlM Tree.step ⟨.array done :: frames, .value closable⟩ =
        some ⟨.array (item.toTree :: done) :: frames, .separator⟩ := hitem done closable
    change (item.tokens ++ .comma :: itemTokens (next :: rest)).foldlM Tree.step _ = _
    rw [List.foldlM_append, hput]
    change (itemTokens (next :: rest)).foldlM Tree.step ⟨_, .value false⟩ = _
    rw [ih hrest]
    simp [itemTrees]

theorem foldlM_fieldTokens {field : String × Json} {rest : List (String × Json)}
    (h : ∀ f ∈ field :: rest, ∀ done key, Builds f.2.tokens f.2.toTree (.object done key :: frames))
    (done : List (Option String × Tree)) (closable : Bool) :
    (fieldTokens (field :: rest)).foldlM Tree.step ⟨.object done none :: frames, .key closable⟩ =
      some ⟨.object ((fieldTrees (field :: rest)).reverse ++ done) none :: frames, .separator⟩ := by
  induction rest generalizing field done closable with
  | nil => exact (List.forall_mem_cons.1 h).1 done (some field.1) false
  | cons next rest ih =>
    obtain ⟨key, value⟩ := field
    obtain ⟨hvalue, hrest⟩ := List.forall_mem_cons.1 h
    have hput : value.tokens.foldlM Tree.step ⟨.object done (some key) :: frames, .value false⟩ =
        some ⟨.object ((some key, value.toTree) :: done) none :: frames, .separator⟩ :=
      hvalue done (some key) false
    change (value.tokens ++ .comma :: fieldTokens (next :: rest)).foldlM Tree.step
      ⟨.object done (some key) :: frames, .value false⟩ = _
    rw [List.foldlM_append, hput]
    change (fieldTokens (next :: rest)).foldlM Tree.step ⟨_, .key false⟩ = _
    rw [ih hrest]
    simp [fieldTrees]

/-- Within the greatest depth, the tokens of a value build it. -/
theorem Bounded.builds {n : Nat} {j : Json} (h : Bounded n j) (hdepth : frames.length + n ≤ maxDepth) :
    Builds j.tokens j.toTree frames := by
  -- inside a container there is one more frame, and one less depth is left
  induction h generalizing frames with
  | null | bool | integer | string => exact fun _ => rfl
  | @array n items _ ih =>
    intro closable
    have hclose (t : Tree) : close frames t = put frames t := close_of_length_lt (by omega) t
    change (itemTokens items ++ [Token.closeArray]).foldlM Tree.step ⟨.array [] :: frames, .value true⟩ = _
    cases items with
    | nil => exact congrArg some (hclose _)
    | cons item rest =>
      rw [List.foldlM_append, foldlM_itemTokens fun j hj done => ih j hj (by simp; omega)]
      simp [Tree.step, hclose, toTree]
  | @object n fields _ ih =>
    intro closable
    have hclose (t : Tree) : close frames t = put frames t := close_of_length_lt (by omega) t
    change (fieldTokens fields ++ [Token.closeObject]).foldlM Tree.step
      ⟨.object [] none :: frames, .key true⟩ = _
    cases fields with
    | nil => exact congrArg some (hclose _)
    | cons field rest =>
      rw [List.foldlM_append, foldlM_fieldTokens fun f hf done key => ih f hf (by simp; omega)]
      simp [Tree.step, hclose, toTree]

/-- A value is read from its text. -/
theorem Tree.ofText?_render {j : Json} (h : Bounded maxDepth j) : Tree.ofText? j.render = some j.toTree := by
  have hbuilds : Builds j.tokens j.toTree [] := h.builds (by simp)
  simp only [Tree.ofText?, ofScalars?, h.yields.scan_eq, Option.bind_eq_bind, Option.bind_some,
    ofTokens?, hbuilds false]
  rfl

theorem Tree.ofBytes?_toUTF8 (s : String) : Tree.ofBytes? s.toUTF8 = Tree.ofText? s := by
  rw [Tree.ofBytes?, Text.Utf8.scan_toUTF8, Tree.ofText?]

end ConsumerConnector.Json
