import TlsTranscript.Rendered

/-!
# Texts told apart in front of a rest

A text is found again inside a longer one only if what may stand behind it is
known. Two texts are apart in front of the rests that begin with an allowed
character if no such rests make them read alike; a way of writing is legible if
its texts in front of such rests tell what they write. Lists
in brackets are legible in front of any rest as soon as their items are legible
in front of the separator and the closing bracket.
-/

namespace TlsTranscript.Text

variable {α β : Type}

/-- A rest that is empty or begins with an allowed character. -/
def Begins (allowed : Char → Prop) (rest : List Char) : Prop :=
  ∀ c ∈ rest.head?, allowed c

/-- Two texts that read alike in front of allowed rests only if they are alike. -/
def Apart (allowed : Char → Prop) (x y : List Char) : Prop :=
  ∀ s t, Begins allowed s → Begins allowed t → x ++ s = y ++ t → x = y

/-- A way of writing whose texts tell what they write in front of allowed rests. -/
def Legible (allowed : Char → Prop) (write : α → List Char) : Prop :=
  ∀ a b s t, Begins allowed s → Begins allowed t → write a ++ s = write b ++ t → a = b

/-- Nothing behind a text is always allowed. -/
@[simp] theorem begins_nil (allowed : Char → Prop) : Begins allowed [] := by
  simp [Begins]

/-- Of a rest only its first character counts. -/
@[simp] theorem begins_cons (allowed : Char → Prop) (c : Char) (rest : List Char) :
    Begins allowed (c :: rest) ↔ allowed c := by
  simp [Begins]

/-- Of two texts behind each other the first decides whether they are allowed as a rest,
unless it is empty. -/
theorem begins_append {allowed : Char → Prop} {x y : List Char} (hx : Begins allowed x)
    (hy : Begins allowed y) : Begins allowed (x ++ y) := by
  cases x with
  | nil => exact hy
  | cons c rest => exact hx

/-- Texts stay apart when fewer rests are allowed. -/
theorem Apart.mono {allowed fewer : Char → Prop} {x y : List Char}
    (h : Apart allowed x y) (hf : ∀ c, fewer c → allowed c) : Apart fewer x y :=
  fun s t hs ht => h s t (fun c hc => hf c (hs c hc)) (fun c hc => hf c (ht c hc))

/-- Texts of one length are apart in front of every rest. -/
theorem apart_of_length {x y : List Char} (h : x.length = y.length) :
    Apart (fun _ => True) x y :=
  fun _ _ _ _ he => List.append_inj_left he h

/-- Texts of one class of characters are apart in front of rests that begin
outside the class. -/
theorem apart_of_class {inside : Char → Prop} {x y : List Char}
    (hx : ∀ c ∈ x, inside c) (hy : ∀ c ∈ y, inside c) :
    Apart (fun c => ¬inside c) x y := by
  intro s t hs ht he
  induction x generalizing y with
  | nil =>
    cases y with
    | nil => rfl
    | cons d y =>
      have hd : s.head? = some d := by simp [show s = d :: (y ++ t) from he]
      exact absurd (hy d List.mem_cons_self) (hs d hd)
  | cons c x ih =>
    cases y with
    | nil =>
      have hc : t.head? = some c := by simp [show t = c :: (x ++ s) from he.symm]
      exact absurd (hx c List.mem_cons_self) (ht c hc)
    | cons d y =>
      simp only [List.cons_append, List.cons.injEq] at he
      rw [he.1, ih (fun e h => hx e (List.mem_cons_of_mem _ h))
        (fun e h => hy e (List.mem_cons_of_mem _ h)) he.2]

/-- A text of one class of characters is found again behind a text that ends outside
the class. -/
theorem eq_of_append_class {inside : Char → Prop} {x y : List Char}
    (hx : ∀ c ∈ x, inside c) (hy : ∀ c ∈ y, inside c) {s t : List Char}
    (hs : Begins (fun c => ¬inside c) s.reverse) (ht : Begins (fun c => ¬inside c) t.reverse)
    (he : s ++ x = t ++ y) : s = t ∧ x = y := by
  have hr : x.reverse ++ s.reverse = y.reverse ++ t.reverse := by
    rw [← List.reverse_append, ← List.reverse_append, he]
  have hxr : ∀ c ∈ x.reverse, inside c := fun c hc => hx c (List.mem_reverse.mp hc)
  have hyr : ∀ c ∈ y.reverse, inside c := fun c hc => hy c (List.mem_reverse.mp hc)
  have hxy : x = y := List.reverse_inj.mp (apart_of_class hxr hyr _ _ hs ht hr)
  rw [hxy, List.append_cancel_right_eq] at he
  exact ⟨he, hxy⟩

/-- Texts without a character are apart in front of rests that begin with it. -/
theorem apart_of_not_mem {mark : Char} {x y : List Char} (hx : mark ∉ x) (hy : mark ∉ y) :
    Apart (· = mark) x y := by
  have h : Apart (fun c => ¬c ≠ mark) x y :=
    apart_of_class (fun c hc he => hx (he ▸ hc)) (fun c hc he => hy (he ▸ hc))
  exact h.mono fun c hc hn => hn hc

namespace Legible

/-- Writing is legible if its texts are apart and each of them writes one value. -/
theorem of_apart {allowed : Char → Prop} {write : α → List Char}
    (h : ∀ a b, Apart allowed (write a) (write b)) (hi : ∀ a b, write a = write b → a = b) :
    Legible allowed write :=
  fun a b s t hs ht he => hi a b (h a b s t hs ht he)

/-- A legible text writes one value. -/
theorem injective {allowed : Char → Prop} {write : α → List Char} (h : Legible allowed write)
    {a b : α} (he : write a = write b) : a = b :=
  h a b [] [] (begins_nil _) (begins_nil _) (by rw [he])

/-- What is legible in front of every rest is told without a look at the rest. -/
theorem everywhere {write : α → List Char} (h : Legible (fun _ => True) write) {a b : α}
    {s t : List Char} (he : write a ++ s = write b ++ t) : a = b :=
  h a b s t (fun _ _ => trivial) (fun _ _ => trivial) he

/-- A legible text in front of an allowed rest tells its value and its rest. -/
theorem eq_of_append {allowed : Char → Prop} {write : α → List Char}
    (h : Legible allowed write) {a b : α} {s t : List Char} (hs : Begins allowed s)
    (ht : Begins allowed t) (he : write a ++ s = write b ++ t) : a = b ∧ s = t := by
  have hab := h a b s t hs ht he
  rw [hab, List.append_cancel_left_eq] at he
  exact ⟨hab, he⟩

/-- Writing stays legible when fewer rests are allowed. -/
theorem mono {allowed fewer : Char → Prop} {write : α → List Char} (h : Legible allowed write)
    (hf : ∀ c, fewer c → allowed c) : Legible fewer write :=
  fun a b s t hs ht => h a b s t (fun c hc => hf c (hs c hc)) (fun c hc => hf c (ht c hc))

/-- What stands for a value may be written in its place. -/
theorem comp {allowed : Char → Prop} {write : α → List Char} (h : Legible allowed write)
    {f : β → α} (hf : ∀ a b, f a = f b → a = b) : Legible allowed (fun b => write (f b)) :=
  fun a b s t hs ht he => hf a b (h (f a) (f b) s t hs ht he)

/-- A fixed text in front keeps writing legible. -/
theorem prepend {allowed : Char → Prop} {write : α → List Char} (h : Legible allowed write)
    (front : List Char) : Legible allowed (fun a => front ++ write a) := by
  intro a b s t hs ht he
  rw [List.append_assoc, List.append_assoc, List.append_cancel_left_eq] at he
  exact h a b s t hs ht he

/-- An allowed character behind a text makes writing legible in front of every
rest. -/
theorem close {allowed : Char → Prop} {write : α → List Char} (h : Legible allowed write)
    {c : Char} (hc : allowed c) (behind : α → List Char) :
    Legible (fun _ => True) (fun a => write a ++ c :: behind a) := by
  intro a b s t _ _ he
  simp only [List.append_assoc, List.cons_append] at he
  exact h a b _ _ (by simpa using hc) (by simpa using hc) he

/-- Two values with an allowed character between them are told together. -/
theorem pair {allowed behind : Char → Prop} {first : α → List Char} {second : β → List Char}
    (hf : Legible allowed first) {c : Char} (hc : allowed c) (hs : Legible behind second) :
    Legible behind (fun p : α × β => first p.1 ++ c :: second p.2) := by
  rintro ⟨a, b⟩ ⟨a', b'⟩ s t hsb htb he
  simp only [List.append_assoc, List.cons_append] at he
  obtain ⟨ha, hr⟩ := hf.eq_of_append (by simpa using hc) (by simpa using hc) he
  rw [List.cons.injEq] at hr
  rw [ha, hs b b' s t hsb htb hr.2]

end Legible

/-- Texts joined by a separator are the first one and each other one behind a
separator. -/
theorem intercalate_cons (separator first : List Char) (rest : List (List Char)) :
    separator.intercalate (first :: rest) = first ++ rest.flatMap (separator ++ ·) := by
  induction rest generalizing first with
  | nil => simp
  | cons second rest ih => simp [ih second]

/-- Whatever stands behind the first item of a row begins with the separator or as the rest
does. -/
theorem begins_separated {allowed : Char → Prop} (mark : Char) (separator : List Char)
    (write : α → List Char) (xs : List α) {rest : List Char} (h : Begins allowed rest) :
    Begins (fun c => c = mark ∨ allowed c)
      (xs.flatMap (fun a => mark :: separator ++ write a) ++ rest) := by
  cases xs with
  | nil => exact fun c hc => .inr (h c hc)
  | cons x xs => simp

/-- Items behind separators are told one by one in front of rests that do not begin with the
separator. -/
theorem Legible.separated {mark : Char} {allowed : Char → Prop} (hmark : ¬allowed mark)
    {separator : List Char} {write : α → List Char}
    (h : Legible (fun c => c = mark ∨ allowed c) write) {xs ys : List α} {s t : List Char}
    (hs : Begins allowed s) (ht : Begins allowed t)
    (he : xs.flatMap (fun a => mark :: separator ++ write a) ++ s =
      ys.flatMap (fun a => mark :: separator ++ write a) ++ t) : xs = ys := by
  have hmarked : ∀ {rest more : List Char}, Begins allowed rest → rest ≠ mark :: more := by
    rintro rest more hrest rfl
    exact hmark ((begins_cons allowed mark more).mp hrest)
  induction xs generalizing ys with
  | nil =>
    cases ys with
    | nil => rfl
    | cons y ys =>
      simp only [List.flatMap_nil, List.flatMap_cons, List.nil_append, List.cons_append] at he
      exact absurd he (hmarked hs)
  | cons x xs ih =>
    cases ys with
    | nil =>
      simp only [List.flatMap_nil, List.flatMap_cons, List.nil_append, List.cons_append] at he
      exact absurd he.symm (hmarked ht)
    | cons y ys =>
      simp only [List.flatMap_cons, List.append_assoc, List.cons_append, List.cons.injEq,
        true_and, List.append_cancel_left_eq] at he
      obtain ⟨hxy, hr⟩ := h.eq_of_append (begins_separated mark separator write xs hs)
        (begins_separated mark separator write ys ht) he
      rw [hxy, ih hr]

/-- Joined items of which there is at least one are told one by one in front of rests that do
not begin with the separator. -/
theorem Legible.joinedCons {mark : Char} {allowed : Char → Prop} (hmark : ¬allowed mark)
    {separator : List Char} {write : α → List Char}
    (h : Legible (fun c => c = mark ∨ allowed c) write) {x y : α} {xs ys : List α}
    {s t : List Char} (hs : Begins allowed s) (ht : Begins allowed t)
    (he : (mark :: separator).intercalate ((x :: xs).map write) ++ s =
      (mark :: separator).intercalate ((y :: ys).map write) ++ t) : x :: xs = y :: ys := by
  simp only [List.map_cons, intercalate_cons, List.flatMap_map, List.append_assoc] at he
  obtain ⟨hxy, hr⟩ := h.eq_of_append (begins_separated mark separator write xs hs)
    (begins_separated mark separator write ys ht) he
  rw [hxy, h.separated hmark hs ht hr]

/-- Joined items in front of a closing bracket are told one by one, if none of
them begins with the bracket. -/
theorem Legible.joined {mark close : Char} (hne : mark ≠ close) {separator : List Char}
    {write : α → List Char} (h : Legible (fun c => c = mark ∨ c = close) write)
    (hfirst : ∀ a, ∃ c rest, write a = c :: rest ∧ c ≠ close) {xs ys : List α}
    {s t : List Char}
    (he : (mark :: separator).intercalate (xs.map write) ++ close :: s =
      (mark :: separator).intercalate (ys.map write) ++ close :: t) : xs = ys := by
  cases xs with
  | nil =>
    cases ys with
    | nil => rfl
    | cons y ys =>
      obtain ⟨c, rest, hw, hc⟩ := hfirst y
      simp only [List.map_nil, List.intercalate_nil, List.map_cons, intercalate_cons, hw,
        List.nil_append, List.cons_append, List.cons.injEq] at he
      exact absurd he.1.symm hc
  | cons x xs =>
    cases ys with
    | nil =>
      obtain ⟨c, rest, hw, hc⟩ := hfirst x
      simp only [List.map_nil, List.intercalate_nil, List.map_cons, intercalate_cons, hw,
        List.nil_append, List.cons_append, List.cons.injEq] at he
      exact absurd he.1 hc
    | cons y ys =>
      refine Legible.joinedCons ?_ h (by simp) (by simp) he
      exact hne

/-- A list in brackets is legible in front of every rest, if its items are legible
in front of the separator and the bracket and none of them begins with the
bracket. -/
theorem Legible.bracketed {mark : Char} (hne : mark ≠ ']') (separator : List Char)
    {write : α → List Char} (h : Legible (fun c => c = mark ∨ c = ']') write)
    (hfirst : ∀ a, ∃ c rest, write a = c :: rest ∧ c ≠ ']') :
    Legible (fun _ => True) fun xs : List α =>
      '[' :: (mark :: separator).intercalate (xs.map write) ++ [']'] := by
  intro xs ys s t _ _ he
  simp only [List.cons_append, List.append_assoc, List.cons.injEq, true_and,
    List.nil_append] at he
  exact h.joined hne hfirst he

end TlsTranscript.Text
