import InlineCheck.Proofs.Source.Reading
import InlineCheck.Source.Expression

/-! # Expressions lie where they are read

Every reader of expressions is sound if the readers of the parts that lie deeper are.
-/

namespace InlineCheck.Source

variable {again : Goal → Reader} {i j : Input} {ns : List Node}

/-! ## Parts that stand in lists -/

theorem reads_nameToken {t : Token} (taken : nameToken i = some (t, j)) : Reads i [] j :=
  reads_takeKind rfl taken

/-- What was read up to a closing sign, as one node. -/
theorem reads_enclosed {kind : Kind} (plain : kind.isCall = false) {n : Node} {a : Input}
    {closer : String} (row : Reads i ns a)
    (read : ((a.take? closer).bind fun k => some (i.upTo k kind ns, k)) = some (n, j)) :
    Reads i [n] j := by
  simp only [Option.bind_eq_some_iff] at read
  obtain ⟨k, closed, made⟩ := read
  cases made
  exact (row.skip (reads_take closed).passes).node plain

section

variable (good : ∀ goal, Sound (again goal))
include good

theorem sound_starredBy (stars : String) {kind : Kind} (plain : kind.isCall = false) (goal : Goal) :
    Sound (starredBy again stars kind goal) := by
  intro i n j read
  simp only [starredBy, Option.bind_eq_bind, Option.bind_eq_some_iff, Prod.exists] at read
  obtain ⟨behind, taken, m, k, deeper, made⟩ := read
  cases made
  exact ((reads_take taken).trans (good goal deeper).passes).node plain

theorem sound_loopTarget : Sound (loopTarget again) := by
  intro i n j read
  unfold loopTarget at read
  split at read
  · exact sound_starredBy good "*" rfl .primary read
  · exact good .primary read

theorem sound_loopTargets : Sound (loopTargets again) := by
  intro i n j read
  simp only [loopTargets, Option.bind_eq_bind, Option.bind_eq_some_iff, Option.bind_none,
    Option.ite_none_left_eq_some, Prod.exists] at read
  obtain ⟨ns, comma, k, items, -, read⟩ := read
  have row := reads_items (sound_loopTarget good) items
  split at read <;> cases read
  · exact row
  · exact row.node rfl

theorem sound_loopFilter : Sound (loopFilter again) := by
  intro i n j read
  simp only [loopFilter, Option.bind_eq_bind, Option.bind_eq_some_iff] at read
  obtain ⟨behind, taken, read⟩ := read
  exact (reads_take taken).trans (good _ read).passes

theorem sound_loopClause : Sound (loopClause again) := by
  intro i n j read
  simp only [loopClause, Option.bind_eq_bind, Option.bind_eq_some_iff, Prod.exists] at read
  obtain ⟨a, opened, target, b, targets, c, within, source, d, sources, made⟩ := read
  cases made
  have opening := (passes_takeOr "async" i).reads (reads_take opened)
  have targets := (sound_loopTargets good targets).skip (reads_take within).passes
  have filters := passes_many (sound_loopFilter good) d
  exact (opening.trans (targets.passes.trans ((good _ sources).passes.trans filters))).node rfl

theorem reads_loopClauses (read : loopClauses again i = some (ns, j)) : Reads i ns j :=
  reads_some (sound_loopClause good) read

/-! ## Calls -/

theorem sound_argument : Sound (argument again) := by
  intro i n j read
  unfold argument at read
  split at read
  · exact sound_starredBy good "*" rfl _ read
  split at read
  · exact sound_starredBy good "**" rfl _ read
  split at read
  · simp only [Option.bind_eq_bind, Option.bind_eq_some_iff, Prod.exists] at read
    obtain ⟨name, a, named, b, equals, value, c, values, made⟩ := read
    cases made
    have naming := (reads_nameToken named).trans (reads_take equals).passes
    exact (naming.trans (good _ values).passes).node rfl
  · simp only [Option.bind_eq_bind, Option.bind_eq_some_iff, Option.bind_none,
      Option.ite_none_left_eq_some, Prod.exists] at read
    obtain ⟨m, k, value, -, made⟩ := read
    cases made
    exact good _ value

theorem reads_arguments (read : arguments again i = some (ns, j)) : Reads i ns j := by
  unfold arguments at read
  split at read
  · rename_i closed
    cases read
    exact reads_take closed
  · simp only [Option.bind_eq_bind, Option.bind_eq_some_iff, Option.ite_none_right_eq_some,
      Prod.exists] at read
    obtain ⟨ms, comma, a, items, b, closed, -, made⟩ := read
    cases made
    exact (reads_items (sound_argument good) items).skip (reads_take closed).passes

/-- A loop that is the only argument begins with the parenthesis of the call. -/
theorem reads_callArguments (read : callArguments again i = some (ns, j)) : Reads i ns j := by
  simp only [callArguments, Option.bind_eq_bind, Option.bind_eq_some_iff] at read
  obtain ⟨a, opened, read⟩ := read
  have opening := reads_take opened
  split at read
  · rename_i closed
    cases read
    exact opening.trans (reads_take closed).passes
  · simp only [Option.bind_eq_some_iff, Prod.exists] at read
    obtain ⟨ms, comma, b, items, read⟩ := read
    have items := (reads_items (sound_argument good) items).passes
    split at read
    · simp only [Option.bind_eq_some_iff, Option.bind_none, Option.ite_none_left_eq_some,
        Prod.exists] at read
      obtain ⟨-, clauses, c, loops, d, closed, made⟩ := read
      cases made
      have loops := (reads_loopClauses good loops).skip (reads_take closed).passes
      exact (opening.trans (items.trans loops.passes)).node rfl
    · simp only [Option.bind_eq_some_iff, Option.ite_none_right_eq_some] at read
      obtain ⟨c, closed, -, made⟩ := read
      cases made
      exact (opening.trans items).skip (reads_take closed).passes

/-! ## Subscripts -/

theorem passes_optionalExpression {stops : List String}
    (read : optionalExpression again stops i = some (ns, j)) : Passes i ns j := by
  unfold optionalExpression at read
  split at read
  · cases read
    exact .refl i
  · simp only [Option.map_eq_some_iff, Prod.exists] at read
    obtain ⟨n, k, read, made⟩ := read
    cases made
    exact (good _ read).passes

theorem sound_sliceItem : Sound (sliceItem again) := by
  intro i n j read
  unfold sliceItem at read
  split at read
  · exact sound_starredBy good "*" rfl _ read
  simp only [Option.bind_eq_bind, Option.bind_none, ite_bind, Option.bind_eq_some_iff,
    Prod.exists] at read
  obtain ⟨first, a, begun, read⟩ := read
  have firsts : first = [] ∧ a = i ∨ Reads i first a := by
    split at begun
    · cases begun
      exact .inl ⟨rfl, rfl⟩
    · simp only [Option.map_eq_some_iff, Prod.exists] at begun
      obtain ⟨m, k, begun, made⟩ := begun
      cases made
      exact .inr (good _ begun)
  split at read
  · -- Without a colon there is an index, which was read.
    split at read <;> cases read
    rcases firsts with ⟨empty, -⟩ | firsts
    · cases empty
    · exact firsts.of_strung fun _ _ strung => strung.sublist (by simp)
  · rename_i b colon
    simp only [Option.bind_eq_some_iff, Option.ite_none_left_eq_some, Prod.exists] at read
    obtain ⟨-, second, c, seconds, read⟩ := read
    have opening : Reads i first b := by
      rcases firsts with ⟨rfl, rfl⟩ | firsts
      · exact reads_take colon
      · exact firsts.skip (reads_take colon).passes
    have both := opening.trans (passes_optionalExpression good seconds)
    split at read
    · cases read
      exact both.node rfl
    · rename_i d colon
      simp only [Option.bind_eq_some_iff, Prod.exists] at read
      obtain ⟨third, e, thirds, made⟩ := read
      cases made
      have both := both.skip (reads_take colon).passes
      exact (both.trans (passes_optionalExpression good thirds)).node rfl

theorem reads_subscripts (read : subscripts again i = some (ns, j)) : Reads i ns j := by
  simp only [subscripts, Option.bind_eq_bind, Option.bind_eq_some_iff, Prod.exists] at read
  obtain ⟨ms, comma, a, items, b, closed, made⟩ := read
  cases made
  exact (reads_items (sound_sliceItem good) items).skip (reads_take closed).passes

/-! ## Atoms -/

/-- What was read up to loops and a closing sign, as one node. -/
theorem reads_looped {n : Node} {a : Input} {closer : String} (row : Reads i ns a)
    (read : ((loopClauses again a).bind fun r => (r.2.take? closer).bind fun k =>
      some (i.upTo k .other (ns ++ r.1), k)) = some (n, j)) :
    Reads i [n] j := by
  rw [Option.bind_eq_some_iff] at read
  obtain ⟨⟨clauses, b⟩, loops, read⟩ := read
  exact reads_enclosed rfl (row.trans (reads_loopClauses good loops).passes) read

theorem sound_parenthesized : Sound (parenthesized again) := by
  intro i n j read
  simp only [parenthesized, Option.bind_eq_bind, Option.bind_eq_some_iff] at read
  obtain ⟨a, opened, read⟩ := read
  have opening := reads_take opened
  split at read
  · rename_i closed
    cases read
    exact (opening.trans (reads_take closed).passes).node rfl
  split at read
  · simp only [Option.bind_eq_some_iff, Prod.exists] at read
    obtain ⟨m, b, given, c, closed, made⟩ := read
    cases made
    exact (opening.trans (good _ given).passes).skip (reads_take closed).passes
  simp only [Option.bind_eq_some_iff, Prod.exists] at read
  obtain ⟨ms, comma, b, items, read⟩ := read
  have row : Reads i ms b := opening.trans (reads_items (good _) items).passes
  split at read
  · split at read
    · cases read
    split at read
    · exact reads_looped good row read
    · simp only [Option.bind_eq_some_iff] at read
      obtain ⟨c, closed, made⟩ := read
      cases made
      exact row.skip (reads_take closed).passes
  · exact reads_enclosed rfl row read

theorem sound_bracketed : Sound (bracketed again) := by
  intro i n j read
  simp only [bracketed, Option.bind_eq_bind, Option.bind_eq_some_iff] at read
  obtain ⟨a, opened, read⟩ := read
  have opening := reads_take opened
  split at read
  · rename_i closed
    cases read
    exact (opening.trans (reads_take closed).passes).node rfl
  simp only [Option.bind_eq_some_iff, Prod.exists] at read
  obtain ⟨ms, comma, b, items, read⟩ := read
  have row : Reads i ms b := opening.trans (reads_items (good _) items).passes
  split at read
  · split at read
    · exact reads_looped good row read
    · exact reads_enclosed rfl row read
  · exact reads_enclosed rfl row read

theorem sound_braceItem : Sound (braceItem again) := by
  intro i n j read
  unfold braceItem at read
  split at read
  · exact sound_starredBy good "**" rfl _ read
  simp only [Option.bind_eq_bind, Option.bind_eq_some_iff, Prod.exists] at read
  obtain ⟨key, a, keys, read⟩ := read
  split at read
  · cases read
    exact good _ keys
  · rename_i b colon
    simp only [Option.bind_eq_some_iff, Option.bind_none, Option.ite_none_left_eq_some,
      Prod.exists] at read
    obtain ⟨-, value, c, values, made⟩ := read
    cases made
    exact (((good _ keys).skip (reads_take colon).passes).trans (good _ values).passes).node rfl

theorem sound_braced : Sound (braced again) := by
  intro i n j read
  simp only [braced, Option.bind_eq_bind, Option.bind_eq_some_iff] at read
  obtain ⟨a, opened, read⟩ := read
  have opening := reads_take opened
  split at read
  · rename_i closed
    cases read
    exact (opening.trans (reads_take closed).passes).node rfl
  simp only [Option.bind_eq_some_iff, Option.bind_none, Option.ite_none_left_eq_some,
    Prod.exists] at read
  obtain ⟨ms, comma, b, items, -, read⟩ := read
  have row : Reads i ms b := opening.trans (reads_items (sound_braceItem good) items).passes
  split at read
  · exact reads_looped good row (Option.ite_none_left_eq_some.mp read).2
  · exact reads_enclosed rfl row read

/-! ## Texts -/

/-- A node that was read from the characters of a field lies between them. -/
theorem strung_field {goal : Goal} {cells : List Placed} {ts : List Token} {n : Node}
    {lo : Position} (rising : Rising cells) (first : .first ≤ lo)
    (least : lo ≤ placeBehind .first cells) (low : ∀ c ∈ cells, lo ≤ c.position)
    (scanned : fieldTokens cells = some ts) (read : again goal { rest := ts } = some (n, j)) :
    Strung lo (placeBehind .first cells) [n] := by
  obtain ⟨ordered, bounds⟩ := ordered_of_scanPlaced rising first least low scanned
  have reads := good goal read
  obtain ⟨advance, -⟩ := reads _ ordered
  refine advance.strung.widen ?_ advance.ordered.high
  cases ts with
  | nil =>
    -- Nothing can be read of no tokens.
    have empty : Input.Ordered .first { rest := [] } :=
      ⟨le_refl _, le_refl _, by simp, by simp, .nil⟩
    obtain ⟨advance, forth⟩ := reads _ empty
    exact absurd advance.ordered.high (not_le_of_gt forth)
  | cons t ts => exact bounds t List.mem_cons_self

theorem strung_fieldNodes {fs : List (List Placed)} {lo hi : Position} (first : .first ≤ lo)
    (filled : ∀ f ∈ fs, f ≠ []) (rising : ∀ f ∈ fs, Rising f) (within : ∀ f ∈ fs, Within lo hi f)
    (ordered : fs.Pairwise Before) (read : fieldNodes again fs = some ns) : Strung lo hi ns := by
  induction fs generalizing lo ns with
  | nil =>
    cases read
    exact .nil lo hi
  | cons cells fs ih =>
    simp only [fieldNodes, Option.bind_eq_bind, Option.bind_eq_some_iff, Option.bind_none,
      Option.ite_none_left_eq_some, Prod.exists] at read
    obtain ⟨ts, scanned, n, k, read, -, ms, later, made⟩ := read
    cases made
    simp only [List.forall_mem_cons] at filled rising within
    -- The last character of a field parts its node from those of the fields behind it.
    obtain ⟨c, member, last⟩ := exists_placeBehind filled.1 .first
    have bounds := within.1 c member
    have between : lo ≤ c.behind := le_trans bounds.1 c.position_lt_behind.le
    have own : Strung lo c.behind [n] := by
      rw [← last]
      exact strung_field good rising.1 first (last ▸ between)
        (fun d member => (within.1 d member).1)
        scanned read
    have others : Strung c.behind hi ms := by
      refine ih (le_trans first between) filled.2 rising.2 (fun f inside d behind => ?_)
        ordered.of_cons later
      exact ⟨List.rel_of_pairwise_cons ordered inside c member d behind,
        (within.2 f inside d behind).2⟩
    exact own.append others between (le_refl _) bounds.2

theorem sound_textPiece : Sound (textPiece again) := by
  intro i n j read
  simp only [textPiece, Option.bind_eq_bind, Option.bind_eq_some_iff, Prod.exists] at read
  obtain ⟨t, k, next, read⟩ := read
  split at read
  · rename_i mark body text
    simp only [Option.bind_none, Option.ite_none_left_eq_some] at read
    obtain ⟨-, read⟩ := read
    have solid : t.kind.isLayout = false := by rw [text]; rfl
    split at read
    · simp only [Option.bind_eq_some_iff] at read
      obtain ⟨fs, found, ns, nodes, made⟩ := read
      cases made
      refine Reads.node ?_ rfl
      refine reads_inside next solid fun ordered forward => ?_
      obtain ⟨rising, within⟩ := forward.body mark body text
      have spread := spread_fields rising within found
      exact strung_fieldNodes good ordered spread.filled spread.rising spread.within
        spread.ordered nodes
    · cases read
      exact (reads_next next solid).node rfl
  · cases read

theorem sound_texts : Sound (texts again) := by
  intro i n j read
  simp only [texts, Option.bind_eq_bind, Option.bind_eq_some_iff, Option.bind_none,
    Option.ite_none_left_eq_some, Prod.exists] at read
  obtain ⟨-, ns, k, pieces, -, made⟩ := read
  cases made
  exact (reads_some (sound_textPiece good) pieces).parts.node rfl

theorem sound_atom : Sound (atom again) := by
  intro i n j read
  simp only [atom, Option.bind_eq_bind, Option.bind_eq_some_iff, Prod.exists] at read
  obtain ⟨t, k, next, read⟩ := read
  have alone {kind : Kind} (plain : kind.isCall = false) (solid : t.kind.isLayout = false) :
      Reads i [i.upTo k kind []] k := (reads_next next solid).node plain
  split at read
  · rename_i known
    cases read
    exact alone rfl (by rw [known]; rfl)
  · rename_i known
    cases read
    exact alone rfl (by rw [known]; rfl)
  · exact sound_texts good read
  · rename_i known
    split at read <;> cases read
    exact alone rfl (by rw [known]; rfl)
  · rename_i known
    split at read
    · exact sound_parenthesized good read
    split at read
    · exact sound_bracketed good read
    split at read
    · exact sound_braced good read
    split at read <;> cases read
    exact alone rfl (by rw [known]; rfl)
  · cases read

/-! ## Operators -/

/-- What follows an atom extends the node from where the atom begins. -/
theorem reads_trailers {start : Input} {fuel : Nat} {m n : Node} (begun : Reads start [m] i)
    (read : trailers again start fuel m i = some (n, j)) : Reads start [n] j := by
  -- Whatever was read so far begins at `start`; only its end moves on.
  induction fuel generalizing m i with
  | zero =>
    cases read
    exact begun
  | succ fuel ih =>
    unfold trailers at read
    split at read
    · rename_i a point
      simp only [Option.bind_eq_bind, Option.bind_eq_some_iff, Prod.exists] at read
      obtain ⟨t, b, named, read⟩ := read
      have member := (reads_take point).trans (reads_nameToken named).passes
      exact ih ((begun.skip member.passes).node rfl) read
    split at read
    · simp only [Option.bind_eq_bind, Option.bind_eq_some_iff, Prod.exists] at read
      obtain ⟨args, b, called, read⟩ := read
      exact ih (begun.call (reads_callArguments good called)) read
    split at read
    · rename_i a opened
      simp only [Option.bind_eq_bind, Option.bind_eq_some_iff, Prod.exists] at read
      obtain ⟨ns, b, indices, read⟩ := read
      have indexed := (reads_take opened).trans (reads_subscripts good indices).passes
      exact ih ((begun.trans indexed.passes).node rfl) read
    · cases read
      exact begun

theorem sound_primary : Sound (primary again) := by
  intro i n j read
  simp only [primary, Option.bind_eq_bind, Option.bind_eq_some_iff, Prod.exists] at read
  obtain ⟨m, k, begun, read⟩ := read
  exact reads_trailers good (sound_atom good begun) read

theorem sound_awaited : Sound (awaited again) := by
  intro i n j read
  unfold awaited at read
  split at read
  · exact sound_primary good read
  · rename_i a waits
    simp only [Option.bind_eq_bind, Option.bind_eq_some_iff, Prod.exists] at read
    obtain ⟨m, k, deeper, made⟩ := read
    cases made
    exact ((reads_take waits).trans (good _ deeper).passes).node rfl

theorem sound_power : Sound (power again) := by
  intro i n j read
  simp only [power, Option.bind_eq_bind, Option.bind_eq_some_iff, Prod.exists] at read
  obtain ⟨m, a, base, read⟩ := read
  have base := sound_awaited good base
  split at read
  · cases read
    exact base
  · rename_i b raised
    split at read
    · -- Stars without an exponent are left to whoever reads on.
      cases read
      exact base
    · rename_i exponent
      cases read
      exact ((base.skip (reads_take raised).passes).trans (good _ exponent).passes).node rfl

theorem sound_factor : Sound (factor again) := by
  intro i n j read
  unfold factor at read
  split at read
  · exact sound_power good read
  · rename_i signed
    simp only [Option.bind_eq_bind, Option.bind_eq_some_iff, Prod.exists] at read
    obtain ⟨m, k, deeper, made⟩ := read
    cases made
    exact ((reads_takeAny signed).trans (good _ deeper).passes).node rfl

omit good in
theorem sound_chain {signs : List String} {operand : Reader} (sound : Sound operand) :
    Sound (chain signs operand) := by
  intro i n j read
  simp only [chain, Option.bind_eq_bind, Option.bind_eq_some_iff, Prod.exists] at read
  obtain ⟨m, k, first, read⟩ := read
  have first := sound first
  have more : Sound (fun i => (i.takeAny? signs).bind fun r => operand r.2) := by
    intro i n j read
    simp only [Option.bind_eq_some_iff, Prod.exists] at read
    obtain ⟨sign, k, taken, read⟩ := read
    exact (reads_takeAny taken).trans (sound read).passes
  have others := passes_many more k
  split at read <;> rename_i same <;> cases read
  · exact first
  · rw [same] at others
    exact (first.trans others).node rfl

theorem sound_bitwiseOr : Sound (bitwiseOr again) :=
  sound_chain (sound_chain (sound_chain (sound_chain (sound_chain (sound_chain
    (sound_factor good))))))

omit good in
theorem reads_comparisonSign {sign : String} (read : comparisonSign i = some (sign, j)) :
    Reads i [] j := by
  unfold comparisonSign at read
  split at read
  · rename_i taken
    cases read
    exact reads_takeAny taken
  split at read
  · rename_i a denied
    simp only [Option.map_eq_some_iff] at read
    obtain ⟨k, member, made⟩ := read
    cases made
    exact (reads_take denied).trans (reads_take member).passes
  split at read
  · cases read
  · rename_i a same
    split at read <;> cases read
    · rename_i denied
      exact (reads_take same).trans (reads_take denied).passes
    · exact reads_take same

theorem sound_comparisonPart : Sound (comparisonPart again) := by
  intro i n j read
  simp only [comparisonPart, Option.bind_eq_bind, Option.bind_eq_some_iff, Prod.exists] at read
  obtain ⟨sign, a, signed, m, k, operand, made⟩ := read
  cases made
  exact ((reads_comparisonSign signed).trans (sound_bitwiseOr good operand).passes).node rfl

theorem sound_comparison : Sound (comparison again) := by
  intro i n j read
  simp only [comparison, Option.bind_eq_bind, Option.bind_eq_some_iff, Prod.exists] at read
  obtain ⟨m, k, first, read⟩ := read
  have first := sound_bitwiseOr good first
  have others := passes_many (sound_comparisonPart good) k
  split at read <;> rename_i same <;> cases read
  · exact first
  · rw [same] at others
    exact (first.trans others.parts).node rfl

theorem sound_inversion : Sound (inversion again) := by
  intro i n j read
  unfold inversion at read
  split at read
  · exact sound_comparison good read
  · rename_i a denied
    simp only [Option.bind_eq_bind, Option.bind_eq_some_iff, Prod.exists] at read
    obtain ⟨m, k, deeper, made⟩ := read
    cases made
    exact ((reads_take denied).trans (good _ deeper).passes).node rfl

theorem sound_disjunction : Sound (disjunction again) :=
  sound_chain (sound_chain (sound_inversion good))

/-! ## Parameters -/

theorem passes_annotated {annotated starred : Bool}
    (read : annotation again annotated starred i = some (ns, j)) : Passes i ns j := by
  unfold annotation at read
  split at read
  · cases read
    exact .refl i
  · rename_i a colon
    split at read
    · cases read
      exact .refl i
    split at read <;> simp only [Option.map_eq_some_iff, Prod.exists] at read <;>
      obtain ⟨n, k, read, made⟩ := read <;> cases made
    · exact ((reads_take colon).trans (sound_starredBy good "*" rfl _ read).passes).passes
    · exact ((reads_take colon).trans (good _ read).passes).passes

theorem passes_defaultValue (read : defaultValue again i = some (ns, j)) : Passes i ns j := by
  unfold defaultValue at read
  split at read
  · cases read
    exact .refl i
  · rename_i a equals
    simp only [Option.map_eq_some_iff, Prod.exists] at read
    obtain ⟨n, k, read, made⟩ := read
    cases made
    exact ((reads_take equals).trans (good _ read).passes).passes

theorem passes_parameters {annotated : Bool} {closer : String} {fuel : Nat} {s : ParameterStage}
    (read : parameters again annotated closer fuel s i = some (ns, j)) : Passes i ns j := by
  induction fuel generalizing s i ns with
  | zero => cases read
  | succ fuel ih =>
    unfold parameters at read
    extract_lets more at read
    -- Every parameter but a last one with two stars goes on with a comma or ends here.
    have further {ms : List Node} {s : ParameterStage} {a : Input} (row : Passes i ms a)
        (read : more ms s a = some (ns, j)) : Passes i ns j := by
      simp only [more] at read
      split at read
      · rename_i b comma
        simp only [Option.map_eq_some_iff, Prod.exists] at read
        obtain ⟨ks, k, later, made⟩ := read
        cases made
        exact (row.skip (reads_take comma).passes).trans (ih later)
      · simp only [Option.ite_none_right_eq_some] at read
        cases read.2
        exact row
    clear_value more
    split at read
    · simp only [Option.ite_none_left_eq_some] at read
      cases read.2
      exact .refl _
    split at read
    · simp only [Option.bind_eq_bind, Option.bind_eq_some_iff, Option.bind_none,
        Option.ite_none_left_eq_some] at read
      obtain ⟨a, slash, -, read⟩ := read
      exact further (reads_take slash).passes read
    split at read
    · simp only [Option.bind_eq_bind, Option.bind_eq_some_iff, Option.bind_none,
        Option.ite_none_left_eq_some, Prod.exists] at read
      obtain ⟨a, stars, t, b, named, ms, c, annotated, -, made⟩ := read
      cases made
      have naming := (reads_take stars).trans (reads_nameToken named).passes
      exact (naming.passes.trans (passes_annotated good annotated)).skip (passes_takeOr _ _)
    split at read
    · simp only [Option.bind_eq_bind, Option.bind_eq_some_iff, Option.bind_none,
        Option.ite_none_left_eq_some] at read
      obtain ⟨a, star, -, read⟩ := read
      have starred := reads_take star
      split at read
      · rename_i t b named
        simp only [Option.bind_eq_some_iff, Prod.exists] at read
        obtain ⟨ms, c, annotated, read⟩ := read
        have naming := starred.trans (reads_nameToken named).passes
        exact further (naming.passes.trans (passes_annotated good annotated)) read
      · simp only [Option.ite_none_left_eq_some] at read
        exact further starred.passes read.2
    · simp only [Option.bind_eq_bind, Option.bind_eq_some_iff, Option.bind_none,
        Option.ite_none_left_eq_some, Prod.exists] at read
      obtain ⟨t, a, named, ms, b, annotated, ks, c, defaulted, -, read⟩ := read
      have naming := (reads_nameToken named).passes.trans (passes_annotated good annotated)
      exact further (naming.trans (passes_defaultValue good defaulted)) read

/-! ## Expressions -/

theorem sound_function : Sound (function again) := by
  intro i n j read
  simp only [function, Option.bind_eq_bind, Option.bind_eq_some_iff, Prod.exists] at read
  obtain ⟨a, word, ns, b, parameters, c, colon, body, d, bodies, made⟩ := read
  cases made
  have parameters := (passes_parameters good parameters).skip (reads_take colon).passes
  exact ((reads_take word).trans (parameters.trans (good _ bodies).passes)).node rfl

theorem sound_expression : Sound (expression again) := by
  intro i n j read
  unfold expression at read
  split at read
  · exact sound_function good read
  simp only [Option.bind_eq_bind, Option.bind_eq_some_iff, Prod.exists] at read
  obtain ⟨m, a, first, read⟩ := read
  have first := sound_disjunction good first
  -- A choice that breaks off leaves its first part as the expression.
  generalize known : (a.take? "if").bind _ = choice at read
  cases choice with
  | none =>
    cases read
    exact first
  | some r =>
    cases read
    simp only [Option.bind_eq_some_iff, Prod.exists] at known
    obtain ⟨b, word, condition, c, conditions, d, word', other, e, others, made⟩ := known
    cases made
    have chosen := (first.skip (reads_take word).passes).trans (good _ conditions).passes
    exact ((chosen.skip (reads_take word').passes).trans (good _ others).passes).node rfl

theorem sound_named : Sound (named again) := by
  intro i n j read
  unfold named at read
  split at read
  · simp only [Option.bind_eq_bind, Option.bind_eq_some_iff, Prod.exists] at read
    obtain ⟨t, a, name, b, assigns, m, k, value, made⟩ := read
    cases made
    have naming : Reads i [i.upTo a (.name t.text) []] b :=
      ((reads_nameToken name).node rfl).skip (reads_take assigns).passes
    exact (naming.trans (good _ value).passes).node rfl
  · simp only [Option.bind_eq_bind, Option.bind_eq_some_iff, Option.bind_none,
      Option.ite_none_left_eq_some, Prod.exists] at read
    obtain ⟨m, a, first, -, made⟩ := read
    cases made
    exact sound_expression good first

theorem sound_starNamed : Sound (starNamed again) := by
  intro i n j read
  unfold starNamed at read
  split at read
  · exact sound_starredBy good "*" rfl _ read
  · exact sound_named good read

theorem sound_starExpression : Sound (starExpression again) := by
  intro i n j read
  unfold starExpression at read
  split at read
  · exact sound_starredBy good "*" rfl _ read
  · exact sound_expression good read

theorem sound_starExpressions : Sound (starExpressions again) := by
  intro i n j read
  simp only [starExpressions, Option.bind_eq_bind, Option.bind_eq_some_iff, Prod.exists] at read
  obtain ⟨ns, comma, k, items, read⟩ := read
  have row := reads_items (sound_starExpression good) items
  split at read <;> cases read
  · exact row
  · exact row.node rfl

theorem sound_yielded : Sound (yielded again) := by
  intro i n j read
  simp only [yielded, Option.bind_eq_bind, Option.bind_eq_some_iff] at read
  obtain ⟨a, word, read⟩ := read
  have opening := reads_take word
  split at read
  · rename_i b source
    simp only [Option.bind_eq_some_iff, Prod.exists] at read
    obtain ⟨m, k, value, made⟩ := read
    cases made
    exact ((opening.trans (reads_take source).passes).trans (good _ value).passes).node rfl
  · split at read <;> cases read
    · rename_i value
      exact (opening.trans (good _ value).passes).node rfl
    · exact opening.node rfl

end

end InlineCheck.Source
