import Mathlib.Data.List.Basic
import Mathlib.Tactic.SplitIfs

/-! Programs over a store whose operations may fail, with or without effect, or be cut short by a
loss of power. What such a program keeps it keeps at every point, since the power may be lost at
each of its operations. -/
namespace Sigui

/-- How one operation ends. An operation that fails, or that the power loss cuts, has had the
effect that `effect` says. -/
inductive Answer (φ ε : Type)
  | ok
  | fail (fault : φ) (effect : ε)
  | cut (effect : ε)
  deriving DecidableEq

/-- A program over a store `σ`, given the answers to its operations. It returns `none` when the
power is lost; when the answers run out every operation succeeds. -/
def Faulty (φ ε σ α : Type) : Type :=
  List (Answer φ ε) → σ → Option α × List (Answer φ ε) × σ

namespace Faulty

variable {φ ε σ α β : Type}

def bind (m : Faulty φ ε σ α) (f : α → Faulty φ ε σ β) : Faulty φ ε σ β := fun answers s =>
  match m answers s with
  | (some a, rest, s') => f a rest s'
  | (none, rest, s') => (none, rest, s')

instance : Monad (Faulty φ ε σ) where
  pure a := fun answers s => (some a, answers, s)
  bind := bind

/-- One operation: `done` when it succeeds, `partly` what a failure or a cut leaves. -/
def operate (done : σ → α × σ) (partly : ε → σ → σ) (failed : φ → α) : Faulty φ ε σ α
  | [], s => (some (done s).1, [], (done s).2)
  | .ok :: rest, s => (some (done s).1, rest, (done s).2)
  | .fail fault effect :: rest, s => (some (failed fault), rest, partly effect s)
  | .cut effect :: rest, s => (none, rest, partly effect s)

/-- A program over a part `τ` of the store. -/
def zoom {τ : Type} (part : σ → τ) (put : τ → σ → σ) (m : Faulty φ ε τ α) : Faulty φ ε σ α :=
  fun answers s =>
    match m answers (part s) with
    | (r, rest, t) => (r, rest, put t s)

def after (m : Faulty φ ε σ α) (answers : List (Answer φ ε)) (s : σ) : σ := (m answers s).2.2

def result (m : Faulty φ ε σ α) (answers : List (Answer φ ε)) (s : σ) : Option α :=
  (m answers s).1

theorem bind_inv {m : Faulty φ ε σ β} {f : β → Faulty φ ε σ α}
    {answers rest : List (Answer φ ε)} {s t : σ} {a : α}
    (h : (m >>= f) answers s = (some a, rest, t)) :
    ∃ b rest' s', m answers s = (some b, rest', s') ∧ f b rest' s' = (some a, rest, t) := by
  change Faulty.bind m f answers s = _ at h
  unfold Faulty.bind at h
  revert h
  rcases m answers s with ⟨_ | b, rest', s'⟩
  · exact fun h => absurd (congrArg Prod.fst h) (by simp)
  · exact fun h => ⟨b, rest', s', rfl, h⟩

theorem bind_run {m : Faulty φ ε σ β} {f : β → Faulty φ ε σ α}
    {answers rest : List (Answer φ ε)} {s t : σ} {b : β} (h : m answers s = (some b, rest, t)) :
    (m >>= f) answers s = f b rest t := by
  show Faulty.bind m f answers s = _
  unfold Faulty.bind
  rw [h]

theorem after_bind {m : Faulty φ ε σ β} {f : β → Faulty φ ε σ α} {answers : List (Answer φ ε)}
    {s : σ} {b : β} (h : m.result answers s = some b) :
    (m >>= f).after answers s = (f b).after (m answers s).2.1 (m.after answers s) := by
  show (Faulty.bind m f answers s).2.2 = _
  unfold Faulty.bind Faulty.after
  unfold Faulty.result at h
  revert h
  rcases m answers s with ⟨r, rest, s'⟩
  rintro (rfl : r = some b)
  rfl

section Rules

variable {may : Prop} {pre pre' cutPost : σ → Prop} {post post' : α → σ → Prop} {q : β → σ → Prop}
  {m n : Faulty φ ε σ α} {answers : List (Answer φ ε)} {s : σ} {a : α}

/-- From a state in `pre` the program returns in `post`, or is cut in `cutPost`. Operations fail and
are cut only when they `may`. -/
def Meets (may : Prop) (pre : σ → Prop) (m : Faulty φ ε σ α) (post : α → σ → Prop)
    (cutPost : σ → Prop) : Prop :=
  ∀ answers s, (may ∨ answers = []) → pre s →
    match m answers s with
    | (some a, rest, s') => (may ∨ rest = []) ∧ post a s'
    | (none, _, s') => may ∧ cutPost s'

theorem Meets.result (h : m.Meets may pre post cutPost) (hallowed : may ∨ answers = [])
    (hpre : pre s) (hresult : m.result answers s = some a) : post a (m.after answers s) := by
  have hrun := h answers s hallowed hpre
  unfold Faulty.result at hresult
  unfold Faulty.after
  revert hrun hresult
  rcases m answers s with ⟨_ | b, rest, s'⟩
  · exact fun hresult => absurd hresult (by simp)
  · exact fun hresult hrun => Option.some.inj hresult ▸ hrun.2

theorem Meets.after {kept : σ → Prop} (h : m.Meets may pre post cutPost)
    (hpost : ∀ a s, post a s → kept s) (hcut : ∀ s, cutPost s → kept s)
    (hallowed : may ∨ answers = []) (hpre : pre s) : kept (m.after answers s) := by
  have hrun := h answers s hallowed hpre
  unfold Faulty.after
  revert hrun
  rcases m answers s with ⟨_ | a, rest, s'⟩
  · exact fun hrun => hcut s' hrun.2
  · exact fun hrun => hpost a s' hrun.2

theorem Meets.trivial (m : Faulty φ ε σ α) :
    m.Meets True pre (fun _ _ => True) fun _ => True := by
  intro answers s _ _
  rcases m answers s with ⟨_ | a, rest, s'⟩
  · exact ⟨True.intro, True.intro⟩
  · exact ⟨.inl True.intro, True.intro⟩

theorem Meets.quiet_run (h : m.Meets False pre post cutPost) (hpre : pre s) :
    ∃ a t, m [] s = (some a, [], t) ∧ post a t := by
  have hrun := h [] s (.inr rfl) hpre
  revert hrun
  rcases m [] s with ⟨_ | a, rest, t⟩
  · exact fun hrun => hrun.1.elim
  · intro hrun
    obtain rfl : rest = [] := hrun.1.resolve_left id
    exact ⟨a, t, rfl, hrun.2⟩

theorem Meets.quiet (h : m.Meets False pre post cutPost) (hpre : pre s) :
    ∃ a, m.result [] s = some a ∧ post a (m.after [] s) := by
  obtain ⟨a, t, hrun, hpost⟩ := h.quiet_run hpre
  unfold Faulty.after Faulty.result
  rw [hrun]
  exact ⟨a, rfl, hpost⟩

theorem Meets.pure (h : ∀ s, pre s → post a s) :
    (pure a : Faulty φ ε σ α).Meets may pre post cutPost :=
  fun _ s hallowed hs => ⟨hallowed, h s hs⟩

theorem Meets.bind {m : Faulty φ ε σ β} {f : β → Faulty φ ε σ α}
    (hm : m.Meets may pre q cutPost) (hf : ∀ b, (f b).Meets may (q b) post cutPost) :
    (m >>= f).Meets may pre post cutPost := by
  intro answers s hallowed hs
  have hrun := hm answers s hallowed hs
  show match Faulty.bind m f answers s with
    | (some a, rest, s') => (may ∨ rest = []) ∧ post a s'
    | (none, _, s') => may ∧ cutPost s'
  unfold Faulty.bind
  revert hrun
  rcases m answers s with ⟨_ | b, rest, s'⟩
  · exact id
  · exact fun hq => hf b rest s' hq.1 hq.2

theorem Meets.mono (h : m.Meets may pre post cutPost) (hpre : ∀ s, pre' s → pre s)
    (hpost : ∀ a s, post a s → post' a s) : m.Meets may pre' post' cutPost := by
  intro answers s hallowed hs
  have hrun := h answers s hallowed (hpre s hs)
  revert hrun
  rcases m answers s with ⟨_ | a, rest, s'⟩
  · exact id
  · exact fun hrun => ⟨hrun.1, hpost a s' hrun.2⟩

theorem Meets.cut_mono {cutPost' : σ → Prop} (h : m.Meets may pre post cutPost)
    (hcut : may → ∀ s, cutPost s → cutPost' s) : m.Meets may pre post cutPost' := by
  intro answers s hallowed hs
  have hrun := h answers s hallowed hs
  revert hrun
  rcases m answers s with ⟨_ | a, rest, s'⟩
  · exact fun hrun => ⟨hrun.1, hcut hrun.1 s' hrun.2⟩
  · exact id

theorem Meets.and {post' : α → σ → Prop} {cutPost' : σ → Prop} (h : m.Meets may pre post cutPost)
    (h' : m.Meets may pre post' cutPost') :
    m.Meets may pre (fun a s => post a s ∧ post' a s) fun s => cutPost s ∧ cutPost' s := by
  intro answers s hallowed hs
  have hrun := h answers s hallowed hs
  have hrun' := h' answers s hallowed hs
  revert hrun hrun'
  rcases m answers s with ⟨_ | a, rest, s'⟩
  · exact fun hrun hrun' => ⟨hrun.1, hrun.2, hrun'.2⟩
  · exact fun hrun hrun' => ⟨hrun.1, hrun.2, hrun'.2⟩

theorem Meets.of_states (h : ∀ s, pre s → m.Meets may (· = s) post cutPost) :
    m.Meets may pre post cutPost :=
  fun answers s hallowed hs => h s hs answers s hallowed rfl

theorem Meets.ite {c : Prop} [Decidable c] (hm : c → m.Meets may pre post cutPost)
    (hn : ¬ c → n.Meets may pre post cutPost) :
    (if c then m else n).Meets may pre post cutPost := by
  split_ifs with h
  · exact hm h
  · exact hn h

theorem Meets.assume {fact : Prop} (hfact : ∀ s, pre s → fact)
    (h : fact → m.Meets may pre post cutPost) : m.Meets may pre post cutPost :=
  fun answers s hallowed hs => h (hfact s hs) answers s hallowed hs

theorem Meets.operate {done : σ → α × σ} {partly : ε → σ → σ} {failed : φ → α}
    (hdone : ∀ s, pre s → post (done s).1 (done s).2)
    (hfailed : may → ∀ s fault effect, pre s → post (failed fault) (partly effect s))
    (hcut : may → ∀ s effect, pre s → cutPost (partly effect s)) :
    (Faulty.operate done partly failed : Faulty φ ε σ α).Meets may pre post cutPost := by
  intro answers s hallowed hs
  cases answers with
  | nil => exact ⟨.inr rfl, hdone s hs⟩
  | cons a rest =>
    have hmay : may := hallowed.resolve_right (List.cons_ne_nil a rest)
    cases a with
    | ok => exact ⟨.inl hmay, hdone s hs⟩
    | fail fault effect => exact ⟨.inl hmay, hfailed hmay s fault effect hs⟩
    | cut effect => exact ⟨hmay, hcut hmay s effect hs⟩

theorem Meets.zoom {τ : Type} {part : σ → τ} {put : τ → σ → σ} {m : Faulty φ ε τ α}
    {pre' cutPost' : τ → Prop} {post' : α → τ → Prop} (h : m.Meets may pre' post' cutPost')
    (hpre : ∀ s, pre s → pre' (part s))
    (hpost : ∀ s a t, pre s → post' a t → post a (put t s))
    (hcut : ∀ s t, pre s → cutPost' t → cutPost (put t s)) :
    (m.zoom part put).Meets may pre post cutPost := by
  intro answers s hallowed hs
  have hrun := h answers (part s) hallowed (hpre s hs)
  unfold Faulty.zoom
  revert hrun
  rcases m answers (part s) with ⟨_ | a, rest, t⟩
  · exact fun hrun => ⟨hrun.1, hcut s t hs hrun.2⟩
  · exact fun hrun => ⟨hrun.1, hpost s a t hs hrun.2⟩

end Rules

section Reading

variable {may : Prop} {s : σ} {out out' : α → Prop} {seen : β → Prop} {m n : Faulty φ ε σ α}

/-- The program leaves the store `s` as it is, and returns only results in `out`. -/
def Reads (may : Prop) (m : Faulty φ ε σ α) (s : σ) (out : α → Prop) : Prop :=
  m.Meets may (· = s) (fun a s' => s' = s ∧ out a) (· = s)

theorem Reads.pure {a : α} (h : out a) : (pure a : Faulty φ ε σ α).Reads may s out :=
  Meets.pure fun _ hs => ⟨hs, h⟩

theorem Reads.bind {m : Faulty φ ε σ β} {f : β → Faulty φ ε σ α} (hm : m.Reads may s seen)
    (hf : ∀ b, seen b → (f b).Reads may s out) : (m >>= f).Reads may s out := by
  apply Meets.bind hm
  intro b
  apply Meets.assume (fun s' hs => hs.2)
  intro hseen
  exact (hf b hseen).mono (fun _ hs => hs.1) fun _ _ h => h

theorem Reads.and {out' : α → Prop} (h : m.Reads may s out) (h' : m.Reads may s out') :
    m.Reads may s fun a => out a ∧ out' a :=
  ((Meets.and h h').mono (fun _ hs => hs) fun _ _ h => ⟨h.1.1, h.1.2, h.2.2⟩).cut_mono
    fun _ _ h => h.1

theorem Reads.ite {c : Prop} [Decidable c] (hm : c → m.Reads may s out)
    (hn : ¬ c → n.Reads may s out) : (if c then m else n).Reads may s out :=
  Meets.ite hm hn

theorem Reads.operate {value : σ → α} {failed : φ → α} (hdone : out (value s))
    (hfailed : may → ∀ fault, out (failed fault)) :
    (Faulty.operate (fun s => (value s, s)) (fun _ s => s) failed :
      Faulty φ ε σ α).Reads may s out :=
  Meets.operate (fun _ hs => ⟨hs, hs ▸ hdone⟩) (fun hmay _ fault _ hs => ⟨hs, hfailed hmay fault⟩)
    fun _ _ _ hs => hs

theorem Reads.zoom {τ : Type} {part : σ → τ} {put : τ → σ → σ} {m : Faulty φ ε τ α}
    (h : m.Reads may (part s) out) (hput : put (part s) s = s) :
    (m.zoom part put).Reads may s out :=
  Meets.zoom h (fun _ hs => congrArg part hs)
    (fun _ _ _ hs ha => ⟨by rw [hs, ha.1, hput], ha.2⟩) fun _ _ hs ht => by rw [hs, ht, hput]

theorem Reads.after (h : m.Reads may s out) {answers : List (Answer φ ε)}
    (hallowed : may ∨ answers = []) : m.after answers s = s :=
  Meets.after h (fun _ _ hs => hs.1) (fun _ hs => hs) hallowed rfl

theorem Reads.bind_meets {m : Faulty φ ε σ β} {f : β → Faulty φ ε σ α} {post : α → σ → Prop}
    {cutPost : σ → Prop} (hm : m.Reads may s seen) (hs : cutPost s)
    (hf : ∀ b, seen b → (f b).Meets may (· = s) post cutPost) :
    (m >>= f).Meets may (· = s) post cutPost := by
  apply Meets.bind (q := fun b s' => s' = s ∧ seen b)
  · intro answers s' hallowed hs'
    have hrun := hm answers s' hallowed hs'
    revert hrun
    rcases m answers s' with ⟨_ | b, rest, t⟩
    · rintro ⟨hmay, rfl⟩
      exact ⟨hmay, hs⟩
    · exact id
  · intro b
    apply Meets.assume (fun s' hs' => hs'.2)
    intro hseen
    exact (hf b hseen).mono (fun _ hs' => hs'.1) fun _ _ h => h

end Reading

section Keeping

variable {may : Prop} {kept : σ → Prop} {m n : Faulty φ ε σ α}

/-- The program keeps an invariant of the store, at every point where it may be cut. -/
def Keeps (may : Prop) (m : Faulty φ ε σ α) (kept : σ → Prop) : Prop :=
  m.Meets may kept (fun _ s => kept s) kept

theorem Keeps.pure (a : α) : (pure a : Faulty φ ε σ α).Keeps may kept :=
  Meets.pure fun _ hs => hs

theorem Keeps.bind {m : Faulty φ ε σ β} {f : β → Faulty φ ε σ α} (hm : m.Keeps may kept)
    (hf : ∀ b, (f b).Keeps may kept) : (m >>= f).Keeps may kept :=
  Meets.bind hm hf

theorem Keeps.ite {c : Prop} [Decidable c] (hm : c → m.Keeps may kept)
    (hn : ¬ c → n.Keeps may kept) : (if c then m else n).Keeps may kept :=
  Meets.ite hm hn

theorem Keeps.operate {done : σ → α × σ} {partly : ε → σ → σ} {failed : φ → α}
    (hdone : ∀ s, kept s → kept (done s).2) (hpartly : ∀ s effect, kept s → kept (partly effect s)) :
    (Faulty.operate done partly failed : Faulty φ ε σ α).Keeps may kept :=
  Meets.operate hdone (fun _ s _ effect hs => hpartly s effect hs)
    fun _ s effect hs => hpartly s effect hs

theorem Keeps.of_reads {out : σ → α → Prop} (h : ∀ s, kept s → m.Reads may s (out s)) :
    m.Keeps may kept := by
  apply Meets.of_states
  intro s hs
  refine ((h s hs).mono (fun _ h => h) ?_).cut_mono ?_
  · rintro a _ ⟨rfl, -⟩
    exact hs
  · rintro - _ rfl
    exact hs

end Keeping

end Faulty

end Sigui
