import TemplateLint.Proofs.InterruptedWalk

/-!
One rule for many trees. Main statement: what a rule reports of a tree, the fault of that tree and
the scope that is left do not depend on the trees before it.
-/

namespace TemplateLint

variable {r : Rule} {document : Value}

/-- The outcome of a walk, the scope that it leaves and what it notes do not depend on what was
noted before. -/
theorem Node.exec_traverse_trace (b : Blacklist) (tree : Node) (w : Walk) :
    exec (tree.traverse b.visitor) w =
      ((exec (tree.traverse b.visitor) ⟨w.scope, #[]⟩).1,
        w.advance (exec (tree.traverse b.visitor) ⟨w.scope, #[]⟩).2.scope
          (exec (tree.traverse b.visitor) ⟨w.scope, #[]⟩).2.trace.toList) := by
  rw [traverse_eq_forM_steps b.visitor [] tree, Progress.exec_forM_act, Progress.exec_forM_act]
  simp

namespace Rule

/-- What a rule holds between trees: the scope of its latest visitor, and all that its walks
noted. -/
structure Memory where
  scope : Option Scope := none
  trace : Array Event := #[]

/-- Reads one more tree and walks it in the memory of the rule: the visitor has a scope of its own,
and the walk notes behind what is there. -/
def resume (r : Rule) (m : Memory) (document : Value) : Except StepFault Unit × Memory :=
  match Node.decode document with
  | .error e => (.error (.decode e), m)
  | .ok tree =>
    match r.blacklist with
    | none => (.ok (), ⟨some [], m.trace⟩)
    | some b =>
      let (outcome, w) := exec (tree.traverse b.visitor) ⟨[], m.trace⟩
      (outcome.mapError .check, ⟨some w.scope, w.trace⟩)

def Memory.history (m : Memory) (source : String) : History :=
  ⟨m.scope, (m.trace.toList.filterMap Event.finding?).map (Finding.violation source)⟩

/-- A rule after some documents. -/
def afterAll (r : Rule) (documents : List Value) : History :=
  documents.foldl (fun h document => (r.step h document).2) {}

def memoryAfterAll (r : Rule) (documents : List Value) : Memory :=
  documents.foldl (fun m document => (r.resume m document).2) {}

@[simp] theorem afterAll_concat (r : Rule) (earlier : List Value) (document : Value) :
    r.afterAll (earlier ++ [document]) = (r.step (r.afterAll earlier) document).2 := by
  simp [afterAll]

@[simp] theorem memoryAfterAll_concat (r : Rule) (earlier : List Value) (document : Value) :
    r.memoryAfterAll (earlier ++ [document]) =
      (r.resume (r.memoryAfterAll earlier) document).2 := by
  simp [memoryAfterAll]

/-- Going on in one memory is a step of the history. -/
theorem resume_history (r : Rule) (m : Memory) (document : Value) :
    ((r.resume m document).1, (r.resume m document).2.history r.source) =
      r.step (m.history r.source) document := by
  obtain ⟨blacklist, source⟩ := r
  cases hd : Node.decode document with
  | error e => simp [resume, step, hd]
  | ok tree =>
    cases blacklist with
    | none =>
      simp [resume, step, hd, walk, violations, Memory.history, Except.mapError, Walk.findings]
    | some b =>
      have hw : Rule.walk ⟨some b, source⟩ tree = exec (tree.traverse b.visitor) ⟨[], #[]⟩ := rfl
      simp only [resume, hd, step_of_decode hd, hw,
        Node.exec_traverse_trace b tree ⟨[], m.trace⟩]
      simp [Memory.history, violations, Walk.findings]

theorem memoryAfterAll_history (r : Rule) (documents : List Value) :
    (r.memoryAfterAll documents).history r.source = r.afterAll documents := by
  induction documents using List.reverseRecOn with
  | nil => rfl
  | append_singleton earlier document ih =>
    have hs := congrArg Prod.snd (resume_history r (r.memoryAfterAll earlier) document)
    rw [memoryAfterAll_concat, afterAll_concat, ← ih]
    exact hs

/-- One more tree: its outcome is that of the tree alone, and the results of the tree alone come
after those that were there. -/
theorem step_eq_alone (r : Rule) (h : History) (document : Value) :
    (r.step h document).1 = (r.step {} document).1 ∧
      (r.step h document).2.results = h.results ++ (r.step {} document).2.results := by
  cases hd : Node.decode document with
  | error e => simp [step_of_unreadable hd]
  | ok tree => simp [step_of_decode hd]

theorem results_afterAll (r : Rule) (documents : List Value) :
    (r.afterAll documents).results =
      documents.flatMap fun document => (r.step {} document).2.results := by
  induction documents using List.reverseRecOn with
  | nil => rfl
  | append_singleton earlier document ih =>
    rw [afterAll_concat, (step_eq_alone r (r.afterAll earlier) document).2, ih,
      List.flatMap_append, List.flatMap_singleton]

theorem source_of_ofSetting {config : Value} {source : String}
    (h : Rule.ofSetting config source = .ok r) : r.source = source := by
  rw [ofSetting] at h
  cases hc : Setting.compile name config with
  | error e =>
    rw [hc] at h
    cases h
  | ok blacklist =>
    rw [hc] at h
    cases h
    rfl

end Rule

/-- A rule that has been used for some documents and a fresh one of the same setting and source
agree on one more document: on its fault, on what is reported of it, and, when it can be read, on
the scope that is left. A document that cannot be read leaves the rule as it was. The results are
those of the documents one after the other. All this is so of a rule that walks in its own memory. -/
theorem reused_rule_eq_fresh {config : Value} {source : String} {used fresh : Rule}
    (hu : Rule.ofSetting config source = .ok used) (hf : Rule.ofSetting config source = .ok fresh)
    (earlier : List Value) (document : Value) :
    (used.step (used.afterAll earlier) document).1 = (fresh.step {} document).1 ∧
    (used.step (used.afterAll earlier) document).2.results =
      (used.afterAll earlier).results ++ (fresh.step {} document).2.results ∧
    (∀ tree, Node.decode document = .ok tree →
      ∃ scope, (used.step (used.afterAll earlier) document).2.scope = some scope ∧
        (fresh.step {} document).2.scope = some scope) ∧
    (∀ e, Node.decode document = .error e →
      (used.step (used.afterAll earlier) document).2 = used.afterAll earlier) ∧
    (used.afterAll earlier).results = earlier.flatMap (fun d => (fresh.step {} d).2.results) ∧
    (used.memoryAfterAll earlier).history source = used.afterAll earlier ∧
    ((used.resume (used.memoryAfterAll earlier) document).1,
      (used.resume (used.memoryAfterAll earlier) document).2.history source) =
        used.step (used.afterAll earlier) document := by
  cases hu.symm.trans hf
  have hm := used.memoryAfterAll_history earlier
  have hr := used.resume_history (used.memoryAfterAll earlier) document
  rw [hm, Rule.source_of_ofSetting hu] at hr
  rw [Rule.source_of_ofSetting hu] at hm
  refine ⟨(used.step_eq_alone _ document).1, (used.step_eq_alone _ document).2, ?_, ?_,
    used.results_afterAll earlier, hm, hr⟩
  · intro tree hd
    rw [Rule.step_of_decode hd, Rule.step_of_decode hd]
    exact ⟨(used.walk tree).2.scope, rfl, rfl⟩
  · intro e hd
    rw [Rule.step_of_unreadable hd]

def fooRule : Rule := ⟨some [("*", .never), ("foo", .passes [])], ""⟩

def fooViolation : Violation := Finding.violation "" ⟨fooMustache, "foo"⟩

theorem frame_listEach : listEach.frame = ⟨["foo"]⟩ := by
  simp [Node.frame, Node.binds, listEach, listBlock, Text.sortedNames, List.eraseDups_cons]

theorem walk_interruptedTemplate : fooRule.walk interruptedTemplate =
    (.error (.nameNotAtomic (.list [])),
      ⟨[⟨["foo"]⟩], #[.found ⟨fooMustache, "foo"⟩, .pushed 1 ⟨["foo"]⟩]⟩) := by
  rw [← frame_listEach, fooRule, Rule.walk_eq]
  simp only [Node.steps_eq, Node.children, interruptedTemplate, listEach, listBlock, listMustache,
    fooMustache, literalMustache, Hash.empty, List.map_nil, List.flatMap_cons, List.flatMap_nil,
    List.append_nil, List.cons_append, List.nil_append, Option.toList_none]
  rfl

theorem walk_literalTemplate : fooRule.walk (literalTemplate (.text "foo")) =
    (.ok (), ⟨[], #[.found ⟨fooMustache, "foo"⟩]⟩) := by
  rw [fooRule, Rule.walk_eq]
  simp only [Node.steps_eq, Node.children, literalTemplate, literalMustache, Hash.empty,
    List.map_nil, List.flatMap_cons, List.flatMap_nil, List.append_nil, List.cons_append,
    List.nil_append]
  rfl

/-- A rule that stopped inside a block, and then met what is no tree. -/
theorem reused_rule_eq_fresh_interrupted :
    Rule.ofSetting (.list [.text "foo"]) "" = .ok fooRule ∧
    fooRule.afterAll [interruptedDocument, .null] = ⟨some [⟨["foo"]⟩], [fooViolation]⟩ ∧
    (fooRule.step (fooRule.afterAll [interruptedDocument, .null])
      (literalDocument (.text "foo"))).1 = .ok () ∧
    (fooRule.step (fooRule.afterAll [interruptedDocument, .null])
      (literalDocument (.text "foo"))).2 = ⟨some [], [fooViolation, fooViolation]⟩ := by
  have h : Rule.ofSetting (.list [.text "foo"]) "" = .ok fooRule := rfl
  have hn : Node.decode .null = .error (.notNode .null) := by simp [Node.decode, Decode.node]
  have ha : fooRule.afterAll [interruptedDocument, .null] =
      ⟨some [⟨["foo"]⟩], [fooViolation]⟩ := by
    simp only [Rule.afterAll, List.foldl_cons, List.foldl_nil, Rule.step_of_unreadable hn,
      Rule.step_of_decode decode_interruptedDocument, walk_interruptedTemplate]
    rfl
  have alone : fooRule.step {} (literalDocument (.text "foo")) =
      (.ok (), ⟨some [], [fooViolation]⟩) := by
    rw [Rule.step_of_decode (decode_literalDocument _), walk_literalTemplate]
    rfl
  obtain ⟨hfault, hresults, hscope, -⟩ := reused_rule_eq_fresh h h [interruptedDocument, .null]
    (literalDocument (.text "foo"))
  obtain ⟨scope, hs, he⟩ := hscope _ (decode_literalDocument _)
  rw [alone] at hfault hresults he
  cases he
  refine ⟨h, ha, hfault, ?_⟩
  generalize (fooRule.step _ _).2 = after at hs hresults
  obtain ⟨scope, results⟩ := after
  cases hs
  rw [ha] at hresults
  cases hresults
  rfl

end TemplateLint
