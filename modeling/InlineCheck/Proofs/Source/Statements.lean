import InlineCheck.Proofs.Source.Expressions
import InlineCheck.Source.Program

/-! # Statements lie where they are read

Every reader of statements and patterns is sound if the readers of the parts that lie deeper are;
so is `read`, at every depth.
-/

namespace InlineCheck.Source

variable {again : Goal → Reader} {i j : Input} {n : Node} {ns : List Node}

/-! ## Names -/

theorem reads_nameList (read : nameList i = some (ns, j)) : Reads i ns j := by
  simp only [nameList, Option.bind_eq_bind, Option.bind_eq_some_iff, Option.bind_none,
    Option.ite_none_left_eq_some, Prod.exists] at read
  obtain ⟨ms, comma, k, items, -, made⟩ := read
  cases made
  refine reads_items (fun i n j read => ?_) items
  simp only [Option.bind_eq_some_iff, Prod.exists] at read
  obtain ⟨t, k, named, made⟩ := read
  cases made
  exact (reads_nameToken named).node rfl

theorem sound_dottedName : Sound dottedName := by
  intro i n j read
  simp only [dottedName, Option.bind_eq_bind, Option.bind_eq_some_iff, Prod.exists] at read
  obtain ⟨t, a, named, made⟩ := read
  cases made
  refine ((reads_nameToken named).trans (passes_many (fun i n j read => ?_) a)).drop.node rfl
  simp only [Option.bind_eq_some_iff, Prod.exists] at read
  obtain ⟨b, point, t, c, named, made⟩ := read
  cases made
  exact ((reads_take point).trans (reads_nameToken named).passes).node rfl

theorem sound_withAlias {item : Reader} (sound : Sound item) : Sound (withAlias item) := by
  intro i n j read
  simp only [withAlias, Option.bind_eq_bind, Option.bind_eq_some_iff, Prod.exists] at read
  obtain ⟨m, a, item, read⟩ := read
  have item := sound item
  split at read
  · cases read
    exact item
  · rename_i b word
    simp only [Option.bind_eq_some_iff, Prod.exists] at read
    obtain ⟨t, c, named, made⟩ := read
    cases made
    exact item.skip ((reads_take word).trans (reads_nameToken named).passes).passes

theorem sound_plainName : Sound plainName := by
  intro i n j read
  simp only [plainName, Option.bind_eq_bind, Option.bind_eq_some_iff, Prod.exists] at read
  obtain ⟨t, a, named, made⟩ := read
  cases made
  exact (reads_nameToken named).node rfl

theorem reads_importedNames (read : importedNames i = some j) : Reads i [] j := by
  unfold importedNames at read
  split at read
  · rename_i star
    cases read
    exact reads_take star
  split at read
  · rename_i a opened
    simp only [Option.bind_eq_bind, Option.bind_eq_some_iff, Prod.exists] at read
    obtain ⟨ms, comma, b, items, closed⟩ := read
    have items := (reads_items (sound_withAlias sound_plainName) items).drop
    exact (reads_take opened).trans (items.skip (reads_take closed).passes).passes
  · simp only [Option.bind_eq_bind, Option.bind_eq_some_iff, Option.bind_none,
      Option.ite_none_left_eq_some, Prod.exists] at read
    obtain ⟨ms, comma, b, items, -, made⟩ := read
    cases made
    exact (reads_items (sound_withAlias sound_plainName) items).drop

theorem passes_leadingPoints (i : Input) : Passes i [] (leadingPoints i).2 := by
  refine (passes_many (fun i n j read => ?_) i).drop
  simp only [Option.bind_eq_bind, Option.bind_eq_some_iff, Prod.exists] at read
  obtain ⟨sign, k, taken, made⟩ := read
  cases made
  exact (reads_takeAny taken).node rfl

section

variable (good : ∀ goal, Sound (again goal))
include good

/-! ## Simple statements -/

theorem sound_assigned : Sound (assigned again) := by
  intro i n j read
  unfold assigned at read
  split at read
  · exact sound_yielded good read
  · exact sound_starExpressions good read

theorem reads_assignedParts {fuel : Nat} {start : Input} (begun : Reads start [n] i)
    (read : assignedParts again fuel n i = some (ns, j)) : Reads start ns j := by
  induction fuel generalizing start n i ns with
  | zero => cases read
  | succ fuel ih =>
    unfold assignedParts at read
    split at read
    · cases read
      exact begun
    · rename_i a equals
      simp only [Option.bind_eq_bind, Option.bind_eq_some_iff, Option.bind_none,
        Option.ite_none_left_eq_some, Prod.exists] at read
      obtain ⟨-, m, b, value, ms, c, later, made⟩ := read
      cases made
      -- The parts behind the sign are read from the first of them on.
      have later := ih (sound_assigned good value) later
      exact (begun.skip (reads_take equals).passes).trans later.passes

theorem sound_assignment : Sound (assignment again) := by
  intro i n j read
  simp only [assignment, Option.bind_eq_bind, Option.bind_eq_some_iff, Prod.exists] at read
  obtain ⟨m, a, target, read⟩ := read
  have target := sound_assigned good target
  split at read
  · rename_i updates
    simp only [Option.bind_eq_some_iff, Option.bind_none, Option.ite_none_left_eq_some,
      Prod.exists] at read
    obtain ⟨-, m', b, value, made⟩ := read
    cases made
    have value := sound_assigned good value
    exact ((target.skip (reads_takeAny updates).passes).trans value.passes).node rfl
  split at read
  · rename_i b colon
    simp only [Option.bind_eq_some_iff, Option.bind_none, Option.ite_none_left_eq_some,
      Prod.exists] at read
    obtain ⟨-, type, c, types, read⟩ := read
    have typed := (target.skip (reads_take colon).passes).trans
      (sound_expression good types).passes
    split at read
    · cases read
      exact typed.node rfl
    · rename_i d equals
      simp only [Option.bind_eq_some_iff, Prod.exists] at read
      obtain ⟨m', e, value, made⟩ := read
      cases made
      have value := sound_assigned good value
      exact ((typed.skip (reads_take equals).passes).trans value.passes).node rfl
  · simp only [Option.bind_eq_some_iff, Prod.exists] at read
    obtain ⟨ms, b, parts, read⟩ := read
    have parts := reads_assignedParts good target parts
    split at read <;> cases read
    · exact parts.node rfl
    · exact parts.node rfl

theorem reads_keywordStatement {word : String} {a : Input} (begun : Reads i [] a)
    (read : keywordStatement again word i a = some (n, j)) : Reads i [n] j := by
  unfold keywordStatement at read
  extract_lets done imports at read
  have ends {ms : List Node} {b : Input} (row : Reads i ms b) (read : done ms b = some (n, j)) :
      Reads i [n] j := by
    cases read
    exact row.node rfl
  -- Two of the words allow a second expression, each behind a word of its own.
  have another {m : Node} {b c : Input} {word : String} (first : Reads i [m] b)
      (taken : b.take? word = some c)
      (read : ((expression again c).bind fun r => done [m, r.1] r.2) = some (n, j)) :
      Reads i [n] j := by
    simp only [Option.bind_eq_some_iff, Prod.exists] at read
    obtain ⟨m', d, second, read⟩ := read
    have second := (sound_expression good second).passes
    exact ends ((first.skip (reads_take taken).passes).trans second) read
  clear_value done
  split at read
  · exact ends begun read
  · exact ends begun read
  · exact ends begun read
  · split at read
    · exact ends begun read
    · simp only [Option.bind_eq_bind, Option.bind_eq_some_iff, Prod.exists] at read
      obtain ⟨m, b, value, read⟩ := read
      exact ends (begun.trans (sound_starExpressions good value).passes) read
  · split at read
    · exact ends begun read
    · simp only [Option.bind_eq_bind, Option.bind_eq_some_iff, Prod.exists] at read
      obtain ⟨m, b, value, read⟩ := read
      have value := begun.trans (sound_expression good value).passes
      split at read
      · exact ends value read
      · rename_i taken
        exact another value taken read
  · simp only [Option.bind_eq_bind, Option.bind_eq_some_iff, Prod.exists] at read
    obtain ⟨ms, b, names, read⟩ := read
    exact ends (begun.trans (reads_nameList names).passes) read
  · simp only [Option.bind_eq_bind, Option.bind_eq_some_iff, Prod.exists] at read
    obtain ⟨ms, b, names, read⟩ := read
    exact ends (begun.trans (reads_nameList names).passes) read
  · simp only [Option.bind_eq_bind, Option.bind_eq_some_iff, Option.bind_none,
      Option.ite_none_left_eq_some, Prod.exists] at read
    obtain ⟨ms, comma, b, targets, -, read⟩ := read
    exact ends (begun.trans (reads_items (sound_primary good) targets).passes) read
  · simp only [Option.bind_eq_bind, Option.bind_eq_some_iff, Prod.exists] at read
    obtain ⟨m, b, value, read⟩ := read
    have value := begun.trans (sound_expression good value).passes
    split at read
    · exact ends value read
    · rename_i taken
      exact another value taken read
  · simp only [Option.bind_eq_bind, Option.bind_eq_some_iff, Option.bind_none,
      Option.ite_none_left_eq_some, Prod.exists] at read
    obtain ⟨ms, comma, b, items, -, read⟩ := read
    have modules := reads_items (sound_withAlias sound_dottedName) items
    exact ends (begun.trans modules.drop.passes) read
  · simp only [Option.bind_eq_bind, ite_bind, imports, Option.bind_eq_some_iff] at read
    obtain ⟨b, module, c, word, d, names, read⟩ := read
    have points := passes_leadingPoints a
    have module : Passes (leadingPoints a).2 [] b := by
      split at module
      · cases module
        exact .refl _
      · simp only [Option.map_eq_some_iff, Prod.exists, exists_eq_right] at module
        obtain ⟨m, read⟩ := module
        exact (sound_dottedName read).drop.passes
    have path := (begun.trans points).skip module
    exact ends ((path.skip (reads_take word).passes).skip (reads_importedNames names).passes) read
  · cases read

theorem sound_simpleStatement : Sound (simpleStatement again) := by
  intro i n j read
  simp only [simpleStatement, Option.bind_eq_bind] at read
  split at read <;>
    simp only [Option.bind_eq_some_iff, Option.ite_none_right_eq_some, Prod.exists] at read <;>
    obtain ⟨m, a, statement, -, made⟩ := read <;> cases made
  · rename_i taken
    exact reads_keywordStatement good (reads_takeAny taken) statement
  · exact sound_assignment good statement

theorem sound_moreSimple : Sound (moreSimple again) := by
  intro i n j read
  simp only [moreSimple, Option.bind_eq_bind, Option.bind_eq_some_iff] at read
  obtain ⟨a, semicolon, read⟩ := read
  exact (reads_take semicolon).trans (sound_simpleStatement good read).passes

theorem reads_simpleLine (read : simpleLine again i = some (ns, j)) : Reads i ns j := by
  simp only [simpleLine, Option.bind_eq_bind, Option.bind_eq_some_iff, Prod.exists] at read
  obtain ⟨m, a, first, t, b, newline, made⟩ := read
  cases made
  have others := passes_many (sound_moreSimple good) a
  have row := (sound_simpleStatement good first).trans others
  exact (row.skip (passes_takeOr _ _)).skip (passes_takeKind newline)

/-! ## Blocks -/

theorem reads_indented (read : indented again i = some (ns, j)) : Reads i ns j := by
  simp only [indented, Option.bind_eq_bind, Option.bind_eq_some_iff, Prod.exists] at read
  obtain ⟨t, a, newline, u, b, indent, ms, c, statements, v, d, dedent, made⟩ := read
  cases made
  -- Layout takes up no text, the statements do.
  have opening := (passes_takeKind newline).trans (passes_takeKind indent)
  exact (opening.reads (reads_some (good _) statements)).skip (passes_takeKind dedent)

theorem reads_block (read : block again i = some (ns, j)) : Reads i ns j := by
  simp only [block, Option.bind_eq_bind, Option.bind_eq_some_iff] at read
  obtain ⟨a, colon, read⟩ := read
  have opening := reads_take colon
  split at read
  · exact opening.trans (reads_indented good read).passes
  · exact opening.trans (reads_simpleLine good read).passes

/-- A statement that ends with a block. -/
theorem reads_withBlock {ms : List Node} {a : Input} (head : Reads i ms a)
    (read : ((block again a).bind fun r => some (i.upTo r.2 .part (ms ++ r.1), r.2))
      = some (n, j)) :
    Reads i [n] j := by
  simp only [Option.bind_eq_some_iff, Prod.exists] at read
  obtain ⟨ks, b, body, made⟩ := read
  cases made
  exact (head.trans (reads_block good body).passes).node rfl

theorem passes_blockAfter {word : String} (read : blockAfter again word i = some (ns, j)) :
    Passes i ns j := by
  unfold blockAfter at read
  split at read
  · cases read
    exact .refl i
  · rename_i a taken
    exact ((reads_take taken).trans (reads_block good read).passes).passes

theorem sound_guardedBlock (word : String) : Sound (guardedBlock again word) := by
  intro i n j read
  simp only [guardedBlock, Option.bind_eq_bind, Option.bind_eq_some_iff, Prod.exists] at read
  obtain ⟨a, taken, m, b, condition, ms, c, body, made⟩ := read
  cases made
  have condition := (reads_take taken).trans (sound_named good condition).passes
  exact (condition.trans (reads_block good body).passes).node rfl

theorem sound_branching : Sound (branching again) := by
  intro i n j read
  simp only [branching, Option.bind_eq_bind, Option.bind_eq_some_iff, Prod.exists] at read
  obtain ⟨m, a, first, ms, b, last, made⟩ := read
  cases made
  have others := passes_many (sound_guardedBlock good "elif") a
  have branches := (sound_guardedBlock good "if" first).trans others
  exact (branches.trans (passes_blockAfter good last)).node rfl

theorem sound_conditionLoop : Sound (conditionLoop again) := by
  intro i n j read
  simp only [conditionLoop, Option.bind_eq_bind, Option.bind_eq_some_iff, Prod.exists] at read
  obtain ⟨m, a, first, ms, b, last, made⟩ := read
  cases made
  exact ((sound_guardedBlock good "while" first).trans (passes_blockAfter good last)).node rfl

theorem sound_elementLoop : Sound (elementLoop again) := by
  intro i n j read
  simp only [elementLoop, Option.bind_eq_bind, Option.bind_eq_some_iff, Prod.exists] at read
  obtain ⟨a, word, target, b, targets, c, within, source, d, sources, ms, e, body, ks, k, last,
    made⟩ := read
  cases made
  have head := (reads_take word).trans (sound_loopTargets good targets).passes
  have head := (head.skip (reads_take within).passes).trans
    (sound_starExpressions good sources).passes
  have body := (head.trans (reads_block good body).passes)
  exact (body.trans (passes_blockAfter good last)).node rfl

theorem sound_resource : Sound (resource again) := by
  intro i n j read
  simp only [resource, Option.bind_eq_bind, Option.bind_eq_some_iff, Prod.exists] at read
  obtain ⟨m, a, held, read⟩ := read
  have held := sound_expression good held
  split at read
  · cases read
    exact held
  · rename_i b word
    simp only [Option.bind_eq_some_iff, Option.bind_none, Option.ite_none_left_eq_some,
      Prod.exists] at read
    obtain ⟨target, c, targets, -, made⟩ := read
    cases made
    have named := held.skip (reads_take word).passes
    exact (named.trans (sound_loopTarget good targets).passes).node rfl

theorem reads_parenthesizedResources (read : parenthesizedResources again i = some (ns, j)) :
    Reads i ns j := by
  simp only [parenthesizedResources, Option.bind_eq_bind, Option.bind_eq_some_iff,
    Option.ite_none_right_eq_some, Prod.exists] at read
  obtain ⟨a, opened, ms, comma, b, items, c, closed, -, made⟩ := read
  cases made
  have row := (reads_take opened).trans (reads_items (sound_resource good) items).passes
  exact row.skip (reads_take closed).passes

theorem reads_plainResources (read : plainResources again i = some (ns, j)) : Reads i ns j := by
  simp only [plainResources, Option.bind_eq_bind, Option.bind_eq_some_iff, Option.bind_none,
    Option.ite_none_left_eq_some, Prod.exists] at read
  obtain ⟨ms, comma, a, items, -, made⟩ := read
  cases made
  exact reads_items (sound_resource good) items

theorem sound_holding : Sound (holding again) := by
  intro i n j read
  simp only [holding, Option.bind_eq_bind, Option.bind_eq_some_iff] at read
  obtain ⟨a, word, read⟩ := read
  have opening := reads_take word
  split at read
  · rename_i held
    exact reads_withBlock good
      (opening.trans (reads_parenthesizedResources good held).passes) read
  · rw [Option.bind_eq_some_iff] at read
    obtain ⟨⟨ms, b⟩, held, read⟩ := read
    exact reads_withBlock good (opening.trans (reads_plainResources good held).passes) read

theorem sound_handler (star : Bool) : Sound (handler again star) := by
  intro i n j read
  simp only [handler, Option.bind_eq_bind, ite_bind, Option.bind_eq_some_iff] at read
  obtain ⟨a, word, b, starred, read⟩ := read
  have head : Reads i [] b := by
    split at starred
    · exact (reads_take word).trans (reads_take starred).passes
    · cases starred
      exact reads_take word
  split at read
  · exact reads_withBlock good head read
  · simp only [Option.bind_eq_some_iff, Prod.exists] at read
    obtain ⟨m, c, fault, read⟩ := read
    have head := head.trans (sound_expression good fault).passes
    split at read
    · exact reads_withBlock good head read
    · rename_i d word'
      rw [Option.bind_eq_some_iff] at read
      obtain ⟨k, named, read⟩ := read
      obtain ⟨⟨t, k⟩, name, rfl⟩ := Option.map_eq_some_iff.mp named
      have naming := (reads_take word').trans (reads_nameToken name).passes
      exact reads_withBlock good (head.skip naming.passes) read

theorem sound_guarding : Sound (guarding again) := by
  intro i n j read
  simp only [guarding, Option.bind_eq_bind, Option.bind_eq_some_iff, ite_bind, Option.bind_none,
    Option.ite_none_left_eq_some, Prod.exists] at read
  obtain ⟨a, word, ms, b, body, others, c, instead, last, d, finals, -, made⟩ := read
  cases made
  have body := (reads_take word).trans (reads_block good body).passes
  have handlers := body.trans (passes_many (sound_handler good (b.seesThen "*")) b)
  have instead : Passes (b.many (handler again (b.seesThen "*"))).2 others c := by
    split at instead
    · cases instead
      exact .refl _
    · exact passes_blockAfter good instead
  exact ((handlers.trans instead).trans (passes_blockAfter good finals)).node rfl

/-! ## Definitions -/

theorem sound_functionDefinition : Sound (functionDefinition again) := by
  intro i n j read
  simp only [functionDefinition, Option.bind_eq_bind, Option.bind_eq_some_iff, Prod.exists] at read
  obtain ⟨a, word, t, b, named, c, opened, ps, d, parameters, e, closed, read⟩ := read
  have head := (reads_take word).trans (reads_nameToken named).passes
  have head := (head.skip (reads_take opened).passes).trans (passes_parameters good parameters)
  have head := head.skip (reads_take closed).passes
  split at read
  · exact reads_withBlock good (head.trans (.refl e)) read
  · rename_i k arrow
    rw [Option.bind_eq_some_iff] at read
    obtain ⟨r, typed, read⟩ := read
    obtain ⟨⟨m, l⟩, result, rfl⟩ := Option.map_eq_some_iff.mp typed
    have result := (reads_take arrow).trans (sound_expression good result).passes
    exact reads_withBlock good (head.trans result.passes) read

theorem sound_classDefinition : Sound (classDefinition again) := by
  intro i n j read
  simp only [classDefinition, Option.bind_eq_bind, Option.bind_eq_some_iff, Prod.exists] at read
  obtain ⟨a, word, t, b, named, read⟩ := read
  have head := (reads_take word).trans (reads_nameToken named).passes
  split at read
  · exact reads_withBlock good head read
  · rename_i k opened
    rw [Option.bind_eq_some_iff] at read
    obtain ⟨⟨ms, c⟩, given, read⟩ := read
    have given := (reads_take opened).trans (reads_arguments good given).passes
    exact reads_withBlock good (head.trans given.passes) read

theorem sound_asynchronous : Sound (asynchronous again) := by
  intro i n j read
  simp only [asynchronous, Option.bind_eq_bind, ite_bind, Option.bind_eq_some_iff,
    Prod.exists] at read
  obtain ⟨a, word, m, b, beside, made⟩ := read
  cases made
  have beside : Reads a [m] j := by
    split at beside
    · exact sound_functionDefinition good beside
    split at beside
    · exact sound_elementLoop good beside
    split at beside
    · exact sound_holding good beside
    · cases beside
  exact ((reads_take word).trans beside.passes).node rfl

theorem sound_decorator : Sound (decorator again) := by
  intro i n j read
  simp only [decorator, Option.bind_eq_bind, Option.bind_eq_some_iff, Prod.exists] at read
  obtain ⟨a, sign, m, b, applied, t, c, newline, made⟩ := read
  cases made
  exact ((reads_take sign).trans (sound_named good applied).passes).skip (passes_takeKind newline)

theorem sound_decorated : Sound (decorated again) := by
  intro i n j read
  simp only [decorated, Option.bind_eq_bind, ite_bind, Option.bind_eq_some_iff, Prod.exists] at read
  obtain ⟨ds, a, decorators, m, b, defined, made⟩ := read
  cases made
  have defined : Reads a [m] j := by
    split at defined
    · exact sound_classDefinition good defined
    split at defined
    · exact sound_functionDefinition good defined
    split at defined
    · exact sound_asynchronous good defined
    · cases defined
  exact ((reads_some (sound_decorator good) decorators).trans defined.passes).node rfl

/-! ## Patterns

The parts of a pattern are no nodes of the tree, except for the guards of cases. -/

omit good in
theorem reads_takeWord {word : String} (read : takeWord? i word = some j) : Reads i [] j := by
  simp only [takeWord?, Option.bind_eq_bind, Option.bind_eq_some_iff,
    Option.ite_none_right_eq_some, Prod.exists] at read
  obtain ⟨t, k, named, -, made⟩ := read
  cases made
  exact reads_nameToken named

omit good in
theorem sound_numberPattern : Sound numberPattern := by
  intro i n j read
  simp only [numberPattern, signedNumber, Option.bind_eq_bind, Option.bind_eq_some_iff,
    Prod.exists] at read
  obtain ⟨t, a, number, read⟩ := read
  have number := (passes_takeOr "-" i).reads (reads_takeKind rfl number)
  split at read
  · cases read
    exact number.node rfl
  · rename_i b sign
    simp only [Option.bind_eq_some_iff, Option.bind_none, Option.ite_none_left_eq_some,
      Prod.exists] at read
    obtain ⟨u, c, imaginary, -, made⟩ := read
    cases made
    have imaginary := (reads_takeAny sign).trans (reads_takeKind rfl imaginary).passes
    exact (number.trans imaginary.passes).node rfl

omit good in
theorem sound_valuePattern (alone : Bool) : Sound (valuePattern alone) := by
  intro i n j read
  simp only [valuePattern, Option.bind_eq_bind, Option.bind_eq_some_iff, Option.bind_none,
    Option.ite_none_left_eq_some, Prod.exists] at read
  obtain ⟨m, a, name, -, made⟩ := read
  cases made
  exact sound_dottedName name

omit good in
theorem sound_starPattern : Sound starPattern := by
  intro i n j read
  simp only [starPattern, Option.bind_eq_bind, Option.bind_eq_some_iff, Prod.exists] at read
  obtain ⟨a, star, t, b, named, made⟩ := read
  cases made
  exact ((reads_take star).trans (reads_nameToken named).passes).node rfl

theorem sound_elementPattern : Sound (elementPattern again) := by
  intro i n j read
  unfold elementPattern at read
  split at read
  · exact sound_starPattern read
  · exact good _ read

theorem reads_elementPatterns {closer : String} {comma : Bool}
    (read : elementPatterns again closer i = some (ns, comma, j)) : Reads i ns j := by
  unfold elementPatterns at read
  split at read
  · rename_i closed
    cases read
    exact reads_take closed
  · simp only [Option.bind_eq_bind, Option.bind_eq_some_iff, Prod.exists] at read
    obtain ⟨ms, comma, a, items, b, closed, made⟩ := read
    cases made
    exact (reads_items (sound_elementPattern good) items).skip (reads_take closed).passes

theorem sound_keyPattern : Sound (keyPattern again) := by
  intro i n j read
  unfold keyPattern at read
  split at read
  · exact sound_numberPattern read
  split at read
  · exact sound_valuePattern _ read
  · exact sound_atom good read

theorem sound_entryPattern : Sound (entryPattern again) := by
  intro i n j read
  unfold entryPattern at read
  split at read
  · rename_i a stars
    simp only [Option.bind_eq_bind, Option.bind_eq_some_iff, Prod.exists] at read
    obtain ⟨t, b, named, made⟩ := read
    cases made
    exact ((reads_take stars).trans (reads_nameToken named).passes).node rfl
  · simp only [Option.bind_eq_bind, Option.bind_eq_some_iff, Prod.exists] at read
    obtain ⟨m, a, key, b, colon, m', c, value, made⟩ := read
    cases made
    have key := (sound_keyPattern good key).drop.trans (reads_take colon).passes
    exact (key.trans (good _ value).drop.passes).node rfl

theorem sound_mappingPattern : Sound (mappingPattern again) := by
  intro i n j read
  simp only [mappingPattern, Option.bind_eq_bind, Option.bind_eq_some_iff] at read
  obtain ⟨a, opened, read⟩ := read
  have opening := reads_take opened
  split at read
  · rename_i closed
    cases read
    exact (opening.trans (reads_take closed).passes).node rfl
  · simp only [Option.bind_eq_some_iff, Option.bind_none, Option.ite_none_left_eq_some,
      Prod.exists] at read
    obtain ⟨ms, comma, b, items, c, closed, -, made⟩ := read
    cases made
    have entries := (reads_items (sound_entryPattern good) items).drop
    exact ((opening.trans entries.passes).skip (reads_take closed).passes).node rfl

theorem sound_memberPattern : Sound (memberPattern again) := by
  intro i n j read
  unfold memberPattern at read
  split at read
  · simp only [Option.bind_eq_bind, Option.bind_eq_some_iff, Prod.exists] at read
    obtain ⟨t, a, named, b, equals, m, c, value, made⟩ := read
    cases made
    have naming := (reads_nameToken named).trans (reads_take equals).passes
    exact (naming.trans (good _ value).drop.passes).node rfl
  · simp only [Option.bind_eq_bind, Option.bind_eq_some_iff, Prod.exists] at read
    obtain ⟨m, a, value, made⟩ := read
    cases made
    exact (good _ value).drop.node rfl

theorem sound_classPattern : Sound (classPattern again) := by
  intro i n j read
  simp only [classPattern, Option.bind_eq_bind, Option.bind_eq_some_iff, Prod.exists] at read
  obtain ⟨m, a, name, b, opened, read⟩ := read
  have opening := (sound_valuePattern _ name).drop.trans (reads_take opened).passes
  split at read
  · rename_i closed
    cases read
    exact (opening.trans (reads_take closed).passes).node rfl
  · simp only [Option.bind_eq_some_iff, Option.bind_none, Option.ite_none_left_eq_some,
      Prod.exists] at read
    obtain ⟨ms, comma, c, items, d, closed, -, made⟩ := read
    cases made
    have members := (reads_items (sound_memberPattern good) items).drop
    exact ((opening.trans members.passes).skip (reads_take closed).passes).node rfl

theorem sound_closedPattern : Sound (closedPattern again) := by
  intro i n j read
  unfold closedPattern at read
  split at read
  · exact sound_numberPattern read
  split at read
  · split at read
    · rename_i found
      cases read
      exact sound_classPattern good found
    · exact sound_valuePattern _ read
  split at read
  · simp only [Option.bind_eq_bind, Option.bind_eq_some_iff, Option.bind_none,
      Option.ite_none_left_eq_some, Prod.exists] at read
    obtain ⟨a, opened, ms, comma, b, elements, -, made⟩ := read
    cases made
    have elements := (reads_elementPatterns good elements).drop
    exact ((reads_take opened).trans elements.passes).node rfl
  split at read
  · simp only [Option.bind_eq_bind, Option.bind_eq_some_iff, Prod.exists] at read
    obtain ⟨a, opened, ms, comma, b, elements, made⟩ := read
    cases made
    have elements := (reads_elementPatterns good elements).drop
    exact ((reads_take opened).trans elements.passes).node rfl
  split at read
  · exact sound_mappingPattern good read
  split at read
  · cases read
  · exact sound_atom good read

theorem sound_pattern : Sound (pattern again) := by
  intro i n j read
  simp only [pattern, Option.bind_eq_bind, Option.bind_eq_some_iff, Prod.exists] at read
  obtain ⟨m, a, alternatives, read⟩ := read
  have alternatives := (sound_chain (sound_closedPattern good) alternatives).drop
  split at read
  · cases read
    exact alternatives.node rfl
  · rename_i b word
    simp only [Option.bind_eq_some_iff, Option.bind_none, Option.ite_none_left_eq_some,
      Prod.exists] at read
    obtain ⟨t, c, named, -, made⟩ := read
    cases made
    have naming := (reads_take word).trans (reads_nameToken named).passes
    exact (alternatives.trans naming.passes).node rfl

theorem sound_casePattern : Sound (casePattern again) := by
  intro i n j read
  simp only [casePattern, Option.bind_eq_bind, Option.bind_eq_some_iff, Option.bind_none,
    Option.ite_none_left_eq_some, Prod.exists] at read
  obtain ⟨ms, comma, a, items, -, made⟩ := read
  cases made
  refine (reads_items (fun i n j read => ?_) items).drop.node rfl
  split at read
  · exact sound_starPattern read
  · exact sound_pattern good read

theorem sound_caseBlock : Sound (caseBlock again) := by
  intro i n j read
  simp only [caseBlock, Option.bind_eq_bind, Option.bind_eq_some_iff, Prod.exists] at read
  obtain ⟨a, word, m, b, shape, read⟩ := read
  have head := (reads_takeWord word).trans (sound_casePattern good shape).drop.passes
  split at read
  · exact reads_withBlock good head read
  · rename_i k word
    rw [Option.bind_eq_some_iff] at read
    obtain ⟨r, guarded, read⟩ := read
    obtain ⟨⟨g, c⟩, condition, rfl⟩ := Option.map_eq_some_iff.mp guarded
    have condition := (reads_take word).trans (sound_named good condition).passes
    exact reads_withBlock good (head.trans condition.passes) read

theorem sound_matching : Sound (matching again) := by
  intro i n j read
  simp only [matching, Option.bind_eq_bind, Option.bind_eq_some_iff, Option.bind_none,
    Option.ite_none_left_eq_some, Prod.exists] at read
  obtain ⟨a, word, ms, comma, b, items, -, c, colon, t, d, newline, u, e, indent, cs, k, cases',
    v, l, dedent, made⟩ := read
  cases made
  have subject := (reads_takeWord word).trans (reads_items (sound_starNamed good) items).passes
  have opening := (subject.skip (reads_take colon).passes).skip (passes_takeKind newline)
  have blocks := (opening.skip (passes_takeKind indent)).trans
    (reads_some (sound_caseBlock good) cases').passes
  exact (blocks.skip (passes_takeKind dedent)).node rfl

/-! ## Programs -/

theorem sound_lineStatement : Sound (lineStatement again) := by
  intro i n j read
  simp only [lineStatement, Option.bind_eq_bind, Option.bind_eq_some_iff, Prod.exists] at read
  obtain ⟨ms, a, line, made⟩ := read
  cases made
  exact (reads_simpleLine good line).node rfl

theorem sound_statement : Sound (statement again) := by
  intro i n j read
  unfold statement at read
  split at read
  · exact sound_branching good read
  split at read
  · exact sound_conditionLoop good read
  split at read
  · exact sound_elementLoop good read
  split at read
  · exact sound_holding good read
  split at read
  · exact sound_guarding good read
  split at read
  · exact sound_functionDefinition good read
  split at read
  · exact sound_classDefinition good read
  split at read
  · exact sound_asynchronous good read
  split at read
  · exact sound_decorated good read
  split at read
  · rename_i found
    cases read
    exact sound_matching good found
  · exact sound_lineStatement good read

theorem sound_readGoal (goal : Goal) : Sound (readGoal again goal) := by
  cases goal with
  | atom => exact sound_atom good
  | primary => exact sound_primary good
  | factor => exact sound_factor good
  | bitwiseOr => exact sound_bitwiseOr good
  | inversion => exact sound_inversion good
  | disjunction => exact sound_disjunction good
  | expression => exact sound_expression good
  | named => exact sound_named good
  | starNamed => exact sound_starNamed good
  | starExpressions => exact sound_starExpressions good
  | yielded => exact sound_yielded good
  | pattern => exact sound_pattern good
  | statement => exact sound_statement good

end

theorem sound_read (depth : Nat) (goal : Goal) : Sound (read depth goal) := by
  induction depth generalizing goal with
  | zero =>
    intro i n j nothing
    cases nothing
  | succ depth ih => exact sound_readGoal ih goal

/-- The statements of a program lie one behind the other. -/
theorem strung_parse {text : String} {tree : Node} (parsed : parse text = some tree) :
    tree.kind = .part ∧ ∃ lo hi, Strung lo hi tree.parts := by
  simp only [parse, Option.bind_eq_bind, Option.bind_eq_some_iff,
    Option.ite_none_right_eq_some] at parsed
  obtain ⟨ts, scanned, -, made⟩ := parsed
  cases made
  have rising : Rising (plainLines (place .first text.toList)) :=
    rising_plainLines (rising_place _ _)
  have low : ∀ c ∈ plainLines (place .first text.toList), .first ≤ c.position := by
    intro c member
    obtain ⟨d, placed, same, -⟩ := mem_plainLines member
    exact same ▸ le_of_mem_place placed
  have least := first_le_placeBehind low
  obtain ⟨ordered, -⟩ := ordered_of_scanPlaced rising (le_refl _) least low scanned
  exact ⟨rfl, _, _, (passes_many (sound_read _ _) _ _ ordered).strung⟩

end InlineCheck.Source
