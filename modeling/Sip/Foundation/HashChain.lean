import Mathlib.Data.List.Induction

/-!
# Hash chains

Each entry is hashed together with the hash of everything before it. If the body
that is hashed shows the previous hash, then two histories of one length with the
same head either have the same bodies, or contain two different bodies with one
digest. Histories of different lengths can only share a head when, besides, some
body hashes to the value the chain starts from.
-/

namespace Sip.HashChain

set_option autoImplicit false

universe u v w
variable {Entry : Type u} {Body : Type v} {Hash : Type w}
variable (body : Hash → Entry → Body) (digest : Body → Hash)

def head (start : Hash) : List Entry → Hash
  | [] => start
  | e :: es => head (digest (body start e)) es

/-- The bodies hashed along the chain, in order. -/
def bodies (start : Hash) : List Entry → List Body
  | [] => []
  | e :: es => body start e :: bodies (digest (body start e)) es

/-- Two different bodies, one from each list, with one digest. -/
def Collision (as bs : List Body) : Prop := ∃ a ∈ as, ∃ b ∈ bs, a ≠ b ∧ digest a = digest b

theorem head_append (start : Hash) (es : List Entry) (e : Entry) :
    head body digest start (es ++ [e]) = digest (body (head body digest start es) e) := by
  induction es generalizing start with
  | nil => rfl
  | cons d es ih => exact ih _

theorem bodies_append (start : Hash) (es : List Entry) (e : Entry) :
    bodies body digest start (es ++ [e]) =
      bodies body digest start es ++ [body (head body digest start es) e] := by
  induction es generalizing start with
  | nil => rfl
  | cons d es ih => simp [bodies, head, ih]

variable {body digest}

theorem Collision.append {as bs : List Body} (h : Collision digest as bs) (a b : Body) :
    Collision digest (as ++ [a]) (bs ++ [b]) := by
  obtain ⟨x, hx, y, hy, hne, heq⟩ := h
  exact ⟨x, List.mem_append_left _ hx, y, List.mem_append_left _ hy, hne, heq⟩

section Commitment
variable (shows : ∀ {h h' : Hash} {e e' : Entry}, body h e = body h' e' → h = h')
include shows

/-- Equal heads after one more entry each: the last bodies agree and so do the
heads before, or the last bodies collide. -/
theorem head_append_eq {start : Hash} {as bs : List Entry} {a b : Entry}
    (h : head body digest start (as ++ [a]) = head body digest start (bs ++ [b])) :
    (body (head body digest start as) a = body (head body digest start bs) b ∧
      head body digest start as = head body digest start bs) ∨
    Collision digest (bodies body digest start (as ++ [a])) (bodies body digest start (bs ++ [b])) := by
  rw [head_append, head_append] at h
  by_cases hbody : body (head body digest start as) a = body (head body digest start bs) b
  · exact .inl ⟨hbody, shows hbody⟩
  · refine .inr ⟨_, ?_, _, ?_, hbody, h⟩
    · simp [bodies_append]
    · simp [bodies_append]

/-- The head of a chain commits to its bodies. -/
theorem head_commits {start : Hash} {as bs : List Entry} (hlen : as.length = bs.length)
    (h : head body digest start as = head body digest start bs) :
    bodies body digest start as = bodies body digest start bs ∨
      Collision digest (bodies body digest start as) (bodies body digest start bs) := by
  induction as using List.reverseRecOn generalizing bs with
  | nil =>
    have hb : bs = [] := List.length_eq_zero_iff.mp hlen.symm
    subst hb
    exact .inl rfl
  | append_singleton as a ih =>
    rcases List.eq_nil_or_concat bs with rfl | ⟨bs, b, rfl⟩
    · simp at hlen
    · simp only [List.concat_eq_append] at h hlen ⊢
      rcases head_append_eq shows h with ⟨hbody, hhead⟩ | hc
      · rw [bodies_append, bodies_append, hbody]
        rcases ih (by simpa using hlen) hhead with hbs | hc
        · exact .inl (by rw [hbs])
        · exact .inr (hc.append _ _)
      · exact .inr hc

/-- Chains of different lengths share a head only through a collision or a body
that hashes to the start value. -/
theorem head_commits_length {start : Hash} {as bs : List Entry} (hlen : as.length < bs.length)
    (h : head body digest start as = head body digest start bs) :
    Collision digest (bodies body digest start as) (bodies body digest start bs) ∨
      ∃ b ∈ bodies body digest start bs, digest b = start := by
  induction as using List.reverseRecOn generalizing bs with
  | nil =>
    rcases List.eq_nil_or_concat bs with rfl | ⟨bs, b, rfl⟩
    · simp at hlen
    · simp only [List.concat_eq_append] at h ⊢
      refine .inr ⟨body (head body digest start bs) b, ?_, ?_⟩
      · rw [bodies_append]
        exact List.mem_append_right _ (List.mem_singleton.mpr rfl)
      · rw [← head_append body digest, ← h]
        rfl
  | append_singleton as a ih =>
    rcases List.eq_nil_or_concat bs with rfl | ⟨bs, b, rfl⟩
    · simp at hlen
    · simp only [List.concat_eq_append] at h hlen ⊢
      rcases head_append_eq shows h with ⟨hbody, hhead⟩ | hc
      · rcases ih (by simpa using hlen) hhead with hc | ⟨x, hx, hstart⟩
        · rw [bodies_append, bodies_append]
          exact .inl (hc.append _ _)
        · rw [bodies_append body digest start bs b]
          exact .inr ⟨x, List.mem_append_left _ hx, hstart⟩
      · exact .inl hc

end Commitment

end Sip.HashChain
