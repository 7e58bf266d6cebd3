import Mathlib.Data.List.Induction
import SpriteRenderer.Proofs.Effect
import SpriteRenderer.Proofs.PoolInvariant

/-!
# The order in which handles are handed out

Which handle a pool hands out next is said here without its stack, from what
was asked of it: `Due` looks only at the handles that went out and came back
so far (`PoolRequest.moves`). The handle given back last comes first, as long
as it has not gone out again; where no handle waits in this way, it is the
largest one that has never been out.

The stack is read in two parts, the handles that came back (`waiting`) above
those that were never out (`untouched`). That it is their concatenation is
kept by every request, refused or not (`stack_serve`, `stack_run`); what the
two lists have to do with the history is `exists_split_of_waiting` and
`head?_untouched_iff`.
-/

namespace SpriteRenderer

variable {T : Type}

/-! ## What went out and came back -/

/-- What a request does with a handle. -/
inductive HandleMove where
  | out (handle : TextureHandle)
  | back (handle : TextureHandle)
deriving DecidableEq

namespace PoolRequest

/-- Whether a handle is asked for. -/
def takes : PoolRequest T → Bool
  | .allocate | .insert _ => true
  | .bind _ _ | .dispose _ | .get _ => false

/-- The handle that moved when a request got its answer, if one did. -/
def move? : PoolRequest T → PoolAnswer T → Option HandleMove
  | .allocate, .handle h | .insert _, .handle h => some (.out h)
  | .dispose h, .resource _ => some (.back h)
  | _, _ => none

/-- Everything that went out and came back while requests were served. -/
def moves (requests : List (PoolRequest T)) (p : TexturePool T) : List HandleMove :=
  (requests.zip (run requests p).1).filterMap fun (request, answer) => request.move? answer

theorem moves_cons (request : PoolRequest T) (rest : List (PoolRequest T)) (p : TexturePool T) :
    moves (request :: rest) p
      = (request.move? (request.serve p).1).toList ++ moves rest (request.serve p).2 := by
  unfold moves
  rw [run, List.zip_cons_cons]
  cases hmove : request.move? (request.serve p).1 with
  | none => simp [hmove]
  | some m => simp [hmove]

end PoolRequest

/-! ## Reading a history -/

namespace HandleMove

variable {moves : List HandleMove} {h k : TextureHandle} {capacity : Nat}

/-- The handle came back, and has not gone out since. -/
def Returned (moves : List HandleMove) (h : TextureHandle) : Prop :=
  ∃ before after, moves = before ++ .back h :: after ∧ .out h ∉ after

/-- Of the handles that came back and have not gone out since, the one that
came back last. -/
def LastReturned (moves : List HandleMove) (h : TextureHandle) : Prop :=
  ∃ before after, moves = before ++ .back h :: after ∧ .out h ∉ after
    ∧ ∀ k, ¬ Returned after k

/-- The largest handle that has never been out. -/
def LargestUntouched (capacity : Nat) (moves : List HandleMove) (h : TextureHandle) : Prop :=
  h.index < capacity ∧ .out h ∉ moves
    ∧ ∀ k : TextureHandle, h.index < k.index → k.index < capacity → .out k ∈ moves

/-- The handle that is to go out next. -/
def Due (capacity : Nat) (moves : List HandleMove) (h : TextureHandle) : Prop :=
  LastReturned moves h ∨ (∀ k, ¬ Returned moves k) ∧ LargestUntouched capacity moves h

theorem LastReturned.returned (last : LastReturned moves h) : Returned moves h := by
  obtain ⟨before, after, hsplit, hout, -⟩ := last
  exact ⟨before, after, hsplit, hout⟩

/-- Two handles cannot both have come back last. -/
theorem LastReturned.unique (last : LastReturned moves h) (last' : LastReturned moves k) :
    h = k := by
  obtain ⟨before, after, rfl, hout, hnone⟩ := last
  obtain ⟨before', after', hsplit, hout', hnone'⟩ := last'
  rcases List.append_eq_append_iff.mp hsplit with ⟨between, rfl, htail⟩ | ⟨between, rfl, htail⟩
  · cases between with
    | nil => exact HandleMove.back.inj (List.cons.inj htail).1
    | cons m between =>
        obtain ⟨-, rfl⟩ := List.cons.inj htail
        exact absurd ⟨between, after', rfl, hout'⟩ (hnone k)
  · cases between with
    | nil => exact (HandleMove.back.inj (List.cons.inj htail).1).symm
    | cons m between =>
        obtain ⟨-, rfl⟩ := List.cons.inj htail
        exact absurd ⟨between, after, rfl, hout⟩ (hnone' h)

theorem not_returned_nil (h : TextureHandle) : ¬ Returned [] h := by
  rintro ⟨before, after, hsplit, -⟩
  simp at hsplit

theorem returned_snoc_iff {m : HandleMove} :
    Returned (moves ++ [m]) h ↔ m = .back h ∨ m ≠ .out h ∧ Returned moves h := by
  constructor
  · rintro ⟨before, after, hsplit, hout⟩
    rcases snoc_eq_append_cons hsplit with ⟨-, hlast, -⟩ | ⟨between, rfl, rfl⟩
    · exact Or.inl hlast
    · simp only [List.mem_append, List.mem_singleton, not_or] at hout
      exact Or.inr ⟨Ne.symm hout.2, before, between, rfl, hout.1⟩
  · rintro (rfl | ⟨hne, before, after, rfl, hout⟩)
    · exact ⟨moves, [], rfl, List.not_mem_nil⟩
    · refine ⟨before, after ++ [m], by simp, ?_⟩
      simp [hout, Ne.symm hne]

/-! ## The two parts of the stack -/

/-- The handles that came back and wait, the last one in front. -/
def waiting (moves : List HandleMove) : List TextureHandle :=
  moves.foldl (fun handles => fun
    | .out h => handles.filter (· ≠ h)
    | .back h => h :: handles) []

/-- The handles that have never been out, the largest one in front. -/
def untouched (capacity : Nat) (moves : List HandleMove) : List TextureHandle :=
  ((List.range capacity).reverse.map TextureHandle.mk).filter (.out · ∉ moves)

@[simp] theorem waiting_nil : waiting [] = [] := rfl

@[simp] theorem waiting_snoc_out (moves : List HandleMove) (h : TextureHandle) :
    waiting (moves ++ [.out h]) = (waiting moves).filter (· ≠ h) := by
  simp [waiting]

@[simp] theorem waiting_snoc_back (moves : List HandleMove) (h : TextureHandle) :
    waiting (moves ++ [.back h]) = h :: waiting moves := by
  simp [waiting]

theorem mem_waiting_iff : h ∈ waiting moves ↔ Returned moves h := by
  induction moves using List.reverseRecOn with
  | nil => simp [not_returned_nil]
  | append_singleton moves m ih =>
      rw [returned_snoc_iff]
      cases m with
      | out k =>
          have hne : h ≠ k ↔ HandleMove.out k ≠ .out h := by simp [eq_comm]
          rw [waiting_snoc_out, List.mem_filter, ih, decide_eq_true_iff, hne]
          simp [and_comm]
      | back k => simp [ih, eq_comm]

/-- Where a waiting handle came back, and that only the handles above it have
come back later. -/
theorem exists_split_of_waiting {above below : List TextureHandle}
    (hwaiting : waiting moves = above ++ h :: below) :
    ∃ before after, moves = before ++ .back h :: after ∧ .out h ∉ after
      ∧ ∀ k, Returned after k → k ∈ above := by
  induction moves using List.reverseRecOn generalizing above below with
  | nil => simp at hwaiting
  | append_singleton moves m ih =>
      cases m with
      | back k =>
          rw [waiting_snoc_back] at hwaiting
          cases above with
          | nil =>
              obtain ⟨rfl, -⟩ := List.cons.inj hwaiting
              exact ⟨moves, [], rfl, List.not_mem_nil,
                fun k hk => absurd hk (not_returned_nil k)⟩
          | cons top above =>
              obtain ⟨rfl, hrest⟩ := List.cons.inj hwaiting
              obtain ⟨before, after, rfl, hout, habove⟩ := ih hrest
              refine ⟨before, after ++ [.back k], by simp, by simp [hout], ?_⟩
              intro k' hk'
              rcases returned_snoc_iff.mp hk' with heq | ⟨-, hbefore⟩
              · simp [HandleMove.back.inj heq]
              · exact List.mem_cons_of_mem _ (habove k' hbefore)
      | out k =>
          rw [waiting_snoc_out] at hwaiting
          -- The handle that goes out may have been anywhere in the list.
          obtain ⟨above₀, rest, hall, habove₀, hrest⟩ := List.filter_eq_append_iff.mp hwaiting
          obtain ⟨skipped, below₀, rfl, hskipped, hh, -⟩ := List.filter_eq_cons_iff.mp hrest
          have hsplit : waiting moves = (above₀ ++ skipped) ++ h :: below₀ := by
            rw [hall, List.append_assoc]
          obtain ⟨before, after, rfl, hout, habove⟩ := ih hsplit
          have hne : h ≠ k := by simpa using hh
          refine ⟨before, after ++ [.out k], by simp, by simp [hout, hne], ?_⟩
          intro k' hk'
          rcases returned_snoc_iff.mp hk' with heq | ⟨hk'ne, hbefore⟩
          · cases heq
          · have hk'' : k' ≠ k := fun heq => hk'ne (congrArg HandleMove.out heq.symm)
            rcases List.mem_append.mp (habove k' hbefore) with hmem | hmem
            · rw [← habove₀]
              exact List.mem_filter.mpr ⟨hmem, by simpa using hk''⟩
            · exact absurd (hskipped k' hmem) (by simpa using hk'')

theorem lastReturned_iff_head? : LastReturned moves h ↔ (waiting moves).head? = some h := by
  have hhead : ∀ {k}, (waiting moves).head? = some k → LastReturned moves k := by
    intro k hk
    obtain ⟨below, hbelow⟩ := List.head?_eq_some_iff.mp hk
    rw [← List.nil_append (k :: below)] at hbelow
    obtain ⟨before, after, hsplit, hout, hnone⟩ := exists_split_of_waiting hbelow
    exact ⟨before, after, hsplit, hout, fun k' hk' => absurd (hnone k' hk') List.not_mem_nil⟩
  refine ⟨?_, hhead⟩
  intro last
  have hne : waiting moves ≠ [] := List.ne_nil_of_mem (mem_waiting_iff.mpr last.returned)
  obtain ⟨top, htop⟩ := Option.isSome_iff_exists.mp (List.isSome_head?.mpr hne)
  rw [htop, last.unique (hhead htop)]

theorem mem_untouched_iff : h ∈ untouched capacity moves ↔ h.index < capacity ∧ .out h ∉ moves := by
  obtain ⟨i⟩ := h
  simp [untouched]

/-- The untouched handles are listed downwards. -/
theorem pairwise_untouched (capacity : Nat) (moves : List HandleMove) :
    (untouched capacity moves).Pairwise fun h k => k.index < h.index := by
  apply List.Pairwise.filter
  rw [List.pairwise_map, List.pairwise_reverse]
  exact List.pairwise_lt_range

theorem head?_untouched_iff :
    (untouched capacity moves).head? = some h ↔ LargestUntouched capacity moves h := by
  constructor
  · intro hhead
    obtain ⟨below, hbelow⟩ := List.head?_eq_some_iff.mp hhead
    have hpairs := pairwise_untouched capacity moves
    rw [hbelow] at hpairs
    obtain ⟨hlt, hout⟩ := mem_untouched_iff.mp (hbelow ▸ List.mem_cons_self)
    refine ⟨hlt, hout, ?_⟩
    intro k habove hk
    by_contra hunused
    have hmem : k ∈ untouched capacity moves := mem_untouched_iff.mpr ⟨hk, hunused⟩
    rw [hbelow] at hmem
    rcases List.mem_cons.mp hmem with rfl | hmem
    · exact Nat.lt_irrefl _ habove
    · exact Nat.lt_asymm habove ((List.pairwise_cons.mp hpairs).1 k hmem)
  · rintro ⟨hlt, hout, hlargest⟩
    have hmem : h ∈ untouched capacity moves := mem_untouched_iff.mpr ⟨hlt, hout⟩
    have hpairs := pairwise_untouched capacity moves
    cases hlist : untouched capacity moves with
    | nil => simp [hlist] at hmem
    | cons top below =>
        rw [hlist] at hmem hpairs
        obtain ⟨htop, htop'⟩ := mem_untouched_iff.mp (hlist ▸ List.mem_cons_self)
        rcases List.mem_cons.mp hmem with rfl | hmem
        · rfl
        · have habove := (List.pairwise_cons.mp hpairs).1 h hmem
          exact absurd (hlargest top habove htop) htop'

/-- The handle that is due is the first of those that wait, or else of those
that were never out. -/
theorem due_iff :
    Due capacity moves h ↔ (waiting moves ++ untouched capacity moves).head? = some h := by
  unfold Due
  rw [List.head?_append, lastReturned_iff_head?, ← head?_untouched_iff]
  have hnone : (∀ k, ¬ Returned moves k) ↔ (waiting moves).head? = none := by
    simp only [← mem_waiting_iff, List.head?_eq_none_iff, List.eq_nil_iff_forall_not_mem]
  rw [hnone]
  cases (waiting moves).head? with
  | none => simp
  | some k => simp

end HandleMove

/-! ## The stack along a run -/

namespace PoolRequest

open TexturePool HandleMove

variable {p p' : TexturePool T} {capacity : Nat} {past : List HandleMove}

/-- The books of the pool are right, and its stack is what the history says:
first what came back, then what was never out. -/
structure Stacked (capacity : Nat) (past : List HandleMove) (p : TexturePool T) : Prop where
  wellFormed : p.WellFormed
  size : p.capacity = capacity
  stack : p.freeStack.map TextureHandle.mk = waiting past ++ untouched capacity past

theorem stacked_empty (capacity : Nat) : Stacked capacity [] (empty capacity : TexturePool T) where
  wellFormed := wellFormed_empty capacity
  size := capacity_empty capacity
  stack := by simp [empty, untouched]

theorem Stacked.take {s : Slot T} {h : TextureHandle} (stacked : Stacked capacity past p)
    (hs : s ≠ .free) (ok : p.take s = .ok (h, p')) : Stacked capacity (past ++ [.out h]) p' := by
  obtain ⟨rest, hstack, rfl⟩ := take_eq_ok_iff.mp ok
  have hlist : h :: rest.map TextureHandle.mk = waiting past ++ untouched capacity past := by
    rw [← stacked.stack, hstack, List.map_cons]
  have hnodup : (waiting past ++ untouched capacity past).Nodup := by
    rw [← stacked.stack]
    exact stacked.wellFormed.nodup.map fun i j hij => TextureHandle.mk.inj hij
  have huntouched : untouched capacity (past ++ [.out h])
      = (untouched capacity past).filter (· ≠ h) := by
    simp [untouched, List.filter_filter, and_comm, eq_comm]
  -- What goes out is the head of one of the two lists and in neither tail.
  have hrest : rest.map TextureHandle.mk
      = (waiting past).filter (· ≠ h) ++ (untouched capacity past).filter (· ≠ h) := by
    rw [← List.filter_append, ← hlist, List.filter_cons_of_neg (by simp)]
    rw [← hlist] at hnodup
    refine (List.filter_eq_self.mpr ?_).symm
    intro k hk
    have hne : k ≠ h := by
      rintro rfl
      exact (List.nodup_cons.mp hnodup).1 hk
    simpa using hne
  refine ⟨stacked.wellFormed.take hs ok, (capacity_take ok).trans stacked.size, ?_⟩
  rw [waiting_snoc_out, huntouched]
  exact hrest

theorem Stacked.dispose {r : Option T} {h : TextureHandle} (stacked : Stacked capacity past p)
    (ok : p.dispose h = .ok (r, p')) : Stacked capacity (past ++ [.back h]) p' := by
  have wf' := stacked.wellFormed.dispose ok
  obtain ⟨-, rfl⟩ := dispose_eq_ok_iff.mp ok
  have huntouched : untouched capacity (past ++ [.back h]) = untouched capacity past := by
    simp [untouched]
  refine ⟨wf', (capacity_setSlot p h .free).trans stacked.size, ?_⟩
  rw [waiting_snoc_back, huntouched, List.map_cons, stacked.stack]
  rfl

/-- A request for a handle takes one from the stack, and what it is answered is
what has moved. -/
theorem exists_take_of_takes {request : PoolRequest T} (takes : request.takes = true)
    (p : TexturePool T) :
    ∃ s, s ≠ .free
      ∧ request.serve p = settle p (fun taken => (.handle taken.1, taken.2)) (p.take s)
      ∧ (∀ h, request.move? (.handle h) = some (.out h))
      ∧ ∀ e, request.move? (.refused e) = none := by
  cases request with
  | allocate => exact ⟨.reserved, by simp, rfl, fun _ => rfl, fun _ => rfl⟩
  | insert resource => exact ⟨.bound resource, by simp, rfl, fun _ => rfl, fun _ => rfl⟩
  | bind _ _ | dispose _ | get _ => cases takes

/-- One request keeps the stack in step with the history, be it refused or
not. -/
theorem stack_serve (stacked : Stacked capacity past p) (request : PoolRequest T) :
    Stacked capacity (past ++ (request.move? (request.serve p).1).toList) (request.serve p).2 := by
  cases takes : request.takes with
  | true =>
      obtain ⟨s, hs, hserve, hout, hrefused⟩ := exists_take_of_takes takes p
      rw [hserve]
      cases htake : p.take s with
      | error e =>
          rw [settle, hrefused]
          simpa using stacked
      | ok taken =>
          rw [settle, hout]
          exact stacked.take hs htake
  | false =>
      cases request with
      | allocate | insert _ => cases takes
      | bind h resource =>
          have hsame : ∀ answer : PoolAnswer T, (bind h resource).move? answer = none := by
            intro answer
            cases answer <;> rfl
          rw [hsame, serve]
          cases hbind : p.bind h resource with
          | error e => simpa [settle] using stacked
          | ok p' =>
              have wf' := stacked.wellFormed.bind hbind
              obtain ⟨-, rfl⟩ := bind_eq_ok_iff.mp hbind
              simp only [settle, Option.toList_none, List.append_nil]
              exact ⟨wf', (capacity_setSlot _ _ _).trans stacked.size, stacked.stack⟩
      | dispose h =>
          rw [serve]
          cases hdispose : p.dispose h with
          | error e => simpa [settle, move?] using stacked
          | ok out => exact stacked.dispose hdispose
      | get h =>
          have hsame : ∀ answer : PoolAnswer T, (get h).move? answer = none := by
            intro answer
            cases answer <;> rfl
          rw [hsame]
          simpa [serve] using stacked

theorem stack_run (stacked : Stacked capacity past p) (requests : List (PoolRequest T)) :
    Stacked capacity (past ++ moves requests p) (run requests p).2 := by
  induction requests generalizing p past with
  | nil => simpa [moves, run] using stacked
  | cons request rest ih =>
      rw [moves_cons, ← List.append_assoc]
      exact ih (stack_serve stacked request)

/-! ## Handing out -/

/-- Asking for a handle gets the top of the stack. -/
theorem serve_eq_handle_iff {request : PoolRequest T} (takes : request.takes = true)
    {h : TextureHandle} :
    (∃ p', request.serve p = (.handle h, p'))
      ↔ (p.freeStack.map TextureHandle.mk).head? = some h := by
  obtain ⟨s, -, hserve, -⟩ := exists_take_of_takes takes p
  rw [hserve, TexturePool.take]
  cases p.freeStack <;> simp [settle]

theorem freeStack_serve {request : PoolRequest T} (takes : request.takes = true) :
    (request.serve p).2.freeStack = p.freeStack.tail := by
  obtain ⟨s, -, hserve, -⟩ := exists_take_of_takes takes p
  rw [hserve, TexturePool.take]
  cases hstack : p.freeStack <;> simp [settle, setSlot, hstack]

/-- Asking for handles, and for nothing else, gets the stack from the top. -/
theorem run_takes {requests : List (PoolRequest T)} (takes : ∀ q ∈ requests, q.takes = true)
    (hroom : requests.length ≤ p.freeStack.length) :
    (run requests p).1
      = (p.freeStack.take requests.length).map fun i => .handle ⟨i⟩ := by
  induction requests generalizing p with
  | nil => rfl
  | cons request rest ih =>
      have htakes := takes request List.mem_cons_self
      cases hstack : p.freeStack with
      | nil => simp [hstack] at hroom
      | cons i stack =>
          obtain ⟨p', hserve⟩ := (serve_eq_handle_iff htakes (p := p) (h := ⟨i⟩)).mpr
            (by simp [hstack])
          have htail : p'.freeStack = stack := by
            have := freeStack_serve htakes (p := p)
            rwa [hserve, hstack, List.tail_cons] at this
          rw [run, hserve, ih (fun q hq => takes q (List.mem_cons_of_mem _ hq))
            (by rw [htail]; simpa [hstack] using hroom), htail]
          rfl

/-- Handles that are all disposed of lie on the stack, the last on top. -/
theorem freeStack_run_dispose {handles : List TextureHandle}
    (disposed : ∀ a ∈ (run (handles.map .dispose) p).1, ∃ r, a = .resource r) :
    (run (handles.map .dispose) p).2.freeStack
      = handles.reverse.map TextureHandle.index ++ p.freeStack := by
  induction handles generalizing p with
  | nil => rfl
  | cons h rest ih =>
      rw [List.map_cons, run] at disposed ⊢
      obtain ⟨hhere, hlater⟩ := List.forall_mem_cons.mp disposed
      have hstack : ((dispose h).serve p).2.freeStack = h.index :: p.freeStack := by
        rw [serve] at hhere ⊢
        cases hdispose : p.dispose h with
        | error e =>
            obtain ⟨r, hr⟩ := hhere
            simp [hdispose, settle] at hr
        | ok out =>
            obtain ⟨-, hp'⟩ := dispose_eq_ok_iff.mp hdispose
            simp only [settle]
            rw [hp']
      rw [ih hlater, hstack]
      simp

/-- **Handles go out in the order that their history says.** Whatever was
asked of a pool since it was made, a request for a handle gets `h` just if `h`
is due: the handle that came back last of those that have not gone out since,
or, where there is none, the largest that has never been out. So a new pool is
handed out downwards, and handles that are disposed of one after the other
come back in the opposite order. -/
theorem handed_out_as_due {capacity : Nat} {p₀ : TexturePool T}
    (made : TexturePool.create capacity = .ok p₀) (requests : List (PoolRequest T)) :
    (∀ (request : PoolRequest T) h, request.takes = true →
        ((∃ p', request.serve (run requests p₀).2 = (.handle h, p'))
          ↔ Due capacity (moves requests p₀) h))
      ∧ (∀ fresh : List (PoolRequest T), (∀ q ∈ fresh, q.takes = true) →
        fresh.length ≤ capacity →
        (run fresh p₀).1
          = (List.range fresh.length).map fun i => .handle ⟨capacity - 1 - i⟩)
      ∧ ∀ (handles : List TextureHandle) (again : List (PoolRequest T)),
        (∀ a ∈ (run (handles.map .dispose) (run requests p₀).2).1, ∃ r, a = .resource r) →
        (∀ q ∈ again, q.takes = true) → again.length = handles.length →
        (run again (run (handles.map .dispose) (run requests p₀).2).2).1
          = handles.reverse.map .handle := by
  obtain ⟨-, rfl⟩ := create_eq_ok_iff.mp made
  refine ⟨?_, ?_, ?_⟩
  · intro request h takes
    have stacked := stack_run (stacked_empty (T := T) capacity) requests
    rw [List.nil_append] at stacked
    rw [serve_eq_handle_iff takes, stacked.stack, due_iff]
  · intro fresh takes hroom
    rw [run_takes takes (by simpa [empty] using hroom)]
    simp only [empty]
    apply List.ext_getElem
    · simp [hroom]
    · intro i hi _
      simp at hi ⊢
  · intro handles again disposed takes hlength
    have hstack := freeStack_run_dispose disposed
    rw [run_takes takes (by rw [hstack]; simp [hlength]), hstack, hlength]
    rw [List.take_left' (by simp), List.map_map]
    rfl

/-- Of four handles three go out and two come back, one of which goes out
again, with a handle disposed of that nobody has. The other is due, and after
two more disposals the last of these. -/
theorem handed_out_as_due_sample :
    ∃ p₀ : TexturePool Nat, TexturePool.create 4 = .ok p₀
      ∧ ∃ requests : List (PoolRequest Nat),
        requests = [.insert 5, .allocate, .allocate, .dispose ⟨2⟩, .dispose ⟨3⟩, .dispose ⟨3⟩,
          .insert 6]
        ∧ moves requests p₀ = [.out ⟨3⟩, .out ⟨2⟩, .out ⟨1⟩, .back ⟨2⟩, .back ⟨3⟩, .out ⟨3⟩]
        ∧ Due 4 (moves requests p₀) ⟨2⟩
        ∧ (run [.allocate, .insert 7] (run [.dispose ⟨1⟩, .dispose ⟨3⟩] (run requests p₀).2).2).1
          = [.handle ⟨3⟩, .handle ⟨1⟩] := by
  have made : TexturePool.create 4 = .ok (empty 4 : TexturePool Nat) := rfl
  have hall := handed_out_as_due made
    [.insert 5, .allocate, .allocate, .dispose ⟨2⟩, .dispose ⟨3⟩, .dispose ⟨3⟩, .insert 6]
  refine ⟨_, made, _, rfl, by decide, ?_, ?_⟩
  · exact (hall.1 .allocate ⟨2⟩ rfl).mp ⟨_, rfl⟩
  · refine hall.2.2 [⟨1⟩, ⟨3⟩] [.allocate, .insert 7] ?_ (by simp [takes]) rfl
    intro a ha
    have hanswers : a = .resource none ∨ a = .resource (some 6) := by
      revert a
      decide
    rcases hanswers with rfl | rfl
    · exact ⟨none, rfl⟩
    · exact ⟨some 6, rfl⟩

end PoolRequest

end SpriteRenderer
