import WSocks.Names
import WSocks.Strings

/-!
# The labels of a query

`getName` takes the length of a label for a signed number, so that a compression
pointer would lead it backwards. The range check of `getString` refuses that first:
the calls only move forward, and they stay inside the buffer.
-/

namespace WSocks.Labels
open WSocks.Effects WSocks.Endian WSocks.DnsFormat WSocks.Text WSocks.Strings WSocks.Buffers WSocks.Libraries
  WSocks.Messages WSocks.Client WSocks.Handlers WSocks.Names

/-- The calls of `getName`, one inside the other: the offsets that it is called with and
    what the first call gives back. -/
inductive Visits (buffer : Buffer) : Int → String → List Int → Except Failure (Int × String) → Prop
  | unread {offset : Int} {sb : String} {failure : Failure} : getByte buffer offset = .error failure →
      Visits buffer offset sb [offset] (.error failure)
  | root {offset : Int} {sb : String} : getByte buffer offset = .ok 0 →
      Visits buffer offset sb [offset] (.ok (offset + 1,sb))
  | cut {offset : Int} {sb : String} {length : Int8} {failure : Failure} : getByte buffer offset = .ok length →
      length ≠ 0 → getString buffer (offset + 1) (offset + 1 + length.toInt) = .error failure →
      Visits buffer offset sb [offset] (.error failure)
  | label {offset : Int} {sb bytes : String} {length : Int8} {visited : List Int}
      {result : Except Failure (Int × String)} : getByte buffer offset = .ok length → length ≠ 0 →
      getString buffer (offset + 1) (offset + 1 + length.toInt) = .ok bytes →
      Visits buffer (offset + 1 + length.toInt) (sb ++ bytes ++ ".") visited result →
      Visits buffer offset sb (offset :: visited) result

/-- The calls move forward. One outside the buffer is the last and fails, and what lies
    between two calls, or before the end of the name, lies inside the buffer. -/
structure Orderly (buffer : Buffer) (start : Int) (visited : List Int) (result : Except Failure (Int × String)) :
    Prop where
  first : ∃ later, visited = start :: later
  increasing : visited.Pairwise (· < ·)
  outside : ∀ (front : List Int) (i : Int) (back : List Int), visited = front ++ i :: back →
    ¬ (0 ≤ i ∧ i < buffer.length) → back = [] ∧ ∃ failure, result = .error failure
  between : ∀ (front : List Int) (i j : Int) (back : List Int), visited = front ++ i :: j :: back → j ≤ buffer.length
  ends : ∀ offset sb, result = .ok (offset,sb) → offset ≤ buffer.length

/-- ASCII characters other than the dot. -/
def Plain (label : Label) : Prop := Ascii label.bytes ∧ ∀ b ∈ label.bytes, b ≠ 46

/-- A query for the name: its labels and a zero stand behind the length and the header. -/
def Asks (buffer : Buffer) (labels : List Label) : Prop :=
  ∃ header back, header.length = 14 ∧ buffer = header ++ (labels.flatMap Label.encode ++ 0 :: back)

/-- The labels joined by dots. -/
def hostOf (labels : List Label) : String := join '.' (labels.map (fun label => asciiText label.bytes))

variable {buffer : Buffer} {offset : Int} {sb : String} {visited : List Int} {result : Except Failure (Int × String)}

/-! ### The calls -/

/-- The calls come to an end, and `getName` is what they give back. -/
theorem visits_getName (buffer : Buffer) (offset : Int) (sb : String) :
    ∃ visited, Visits buffer offset sb visited (getName buffer offset sb) := by
  induction offset, sb using getName.induct buffer with
  | case1 offset sb failure unread =>
    rw [getName,unread]
    exact ⟨_,.unread unread⟩
  | case2 offset sb zero =>
    rw [getName,zero]
    exact ⟨_,.root zero⟩
  | case3 offset sb length byte nonzero failure cut =>
    have refused : getString buffer (offset + 1) (offset + 1 + length.toInt) = .error failure := by
      rw [getString,cut]
      rfl
    rw [getName_cut byte nonzero cut]
    exact ⟨_,.cut byte nonzero refused⟩
  | case4 offset sb length byte nonzero bytes got ih =>
    have text : getString buffer (offset + 1) (offset + 1 + length.toInt) = .ok (decodeUtf8 bytes) := by
      rw [getString,got]
      rfl
    obtain ⟨visited,visits⟩ := ih
    rw [getName_label byte nonzero got]
    exact ⟨_,.label byte nonzero text visits⟩

private theorem getByte_inside {length : Int8} (byte : getByte buffer offset = .ok length) :
    0 ≤ offset ∧ offset < buffer.length := by
  rw [getByte] at byte
  rcases got : getBytes buffer offset (offset + 1) with failure | bytes
  · rw [got] at byte
    cases byte
  · obtain ⟨front,back,whole,start,finish⟩ := getBytes_ok got
    have total := congrArg List.length whole
    simp only [List.length_append] at total
    omega

/-- A text is read from the buffer only, and never backwards. -/
private theorem getString_inside {start finish : Int} {text : String}
    (read : getString buffer start finish = .ok text) :
    start ≤ finish ∧ finish ≤ buffer.length := by
  rw [getString] at read
  rcases got : getBytes buffer start finish with failure | bytes
  · rw [got] at read
    cases read
  · obtain ⟨front,back,whole,start,finish⟩ := getBytes_ok got
    have total := congrArg List.length whole
    simp only [List.length_append] at total
    omega

/-- A call that makes no other one. -/
private theorem orderly_single (outside : ¬ (0 ≤ offset ∧ offset < buffer.length) → ∃ failure, result = .error failure)
    (ends : ∀ finish sb, result = .ok (finish,sb) → finish ≤ buffer.length) :
    Orderly buffer offset [offset] result := by
  constructor
  · exact ⟨[],rfl⟩
  · exact List.pairwise_singleton _ _
  · intro front i back whole beyond
    rcases front with _ | ⟨k,front⟩
    · obtain ⟨rfl,rfl⟩ := List.cons.inj whole
      exact ⟨rfl,outside beyond⟩
    · simp at whole
  · intro front i j back whole
    have lengths := congrArg List.length whole
    simp at lengths
    omega
  · exact ends

theorem Visits.orderly (visits : Visits buffer offset sb visited result) : Orderly buffer offset visited result := by
  induction visits with
  | unread unread => exact orderly_single (fun _ => ⟨_,rfl⟩) (fun _ _ named => by cases named)
  | root zero =>
    have inside := getByte_inside zero
    refine orderly_single (fun beyond => absurd inside beyond) ?_
    intro finish sb named
    cases named
    omega
  | cut byte nonzero refused => exact orderly_single (fun _ => ⟨_,rfl⟩) (fun _ _ named => by cases named)
  | @label offset sb bytes length visited result byte nonzero text visits ih =>
    have inside := getByte_inside byte
    have forward := getString_inside text
    obtain ⟨later,rfl⟩ := ih.first
    constructor
    · exact ⟨_,rfl⟩
    · refine List.pairwise_cons.mpr ⟨?_,ih.increasing⟩
      intro i member
      rcases List.mem_cons.mp member with rfl | behind
      · omega
      · have := List.rel_of_pairwise_cons ih.increasing behind
        omega
    · intro front i back whole beyond
      rcases front with _ | ⟨k,front⟩
      · obtain ⟨rfl,-⟩ := List.cons.inj whole
        exact absurd inside beyond
      · exact ih.outside front i back (List.cons.inj whole).2 beyond
    · intro front i j back whole
      rcases front with _ | ⟨k,front⟩
      · obtain ⟨-,same⟩ := List.cons.inj whole
        obtain ⟨rfl,-⟩ := List.cons.inj same
        exact forward.2
      · exact ih.between front i j back (List.cons.inj whole).2
    · exact ih.ends

/-! ### Names of labels -/

/-- The text of a plain label is not empty and has no dot. -/
private theorem Plain.text {label : Label} (plain : Plain label) :
    (asciiText label.bytes).toList ≠ [] ∧ '.' ∉ (asciiText label.bytes).toList := by
  have nonempty := label.nonempty
  constructor
  · intro empty
    have lengths := congrArg List.length empty
    simp [asciiText] at lengths
    simp [lengths] at nonempty
  · intro dot
    simp only [asciiText,String.toList_ofList,List.mem_map] at dot
    obtain ⟨b,member,same⟩ := dot
    have small : b.toNat < 128 := UInt8.lt_iff_toNat_lt.mp (plain.1 b member)
    have valid : b.toNat.isValidChar := .inl (by omega)
    have value : (Char.ofNat b.toNat).val.toNat = b.toNat := by simp [Char.ofNat,valid,Char.ofNatAux]
    rw [same] at value
    exact plain.2 b member (UInt8.toNat_inj.mp value.symm)

/-- Every label is followed by a dot. -/
private theorem dotted_toList {labels : List Label} (plain : ∀ label ∈ labels, Plain label) (sb : String) :
    (dotted labels sb).toList =
      sb.toList ++ (labels.map (fun label => (asciiText label.bytes).toList)).flatMap (· ++ ['.']) := by
  induction labels generalizing sb with
  | nil => simp [dotted]
  | cons label labels ih =>
    have rest := ih (fun other member => plain other (List.mem_cons_of_mem _ member))
      (sb ++ asciiText label.bytes ++ ".")
    have step : dotted (label :: labels) sb = dotted labels (sb ++ asciiText label.bytes ++ ".") := by
      rw [← decodeUtf8_ascii (plain label List.mem_cons_self).1]
      rfl
    rw [step,rest]
    simp

private theorem flatMap_separator {α : Type} (separator : List α) {pieces : List (List α)} (nonempty : pieces ≠ []) :
    pieces.flatMap (· ++ separator) = separator.intercalate pieces ++ separator := by
  induction pieces with
  | nil => contradiction
  | cons piece rest ih =>
    rcases rest with _ | ⟨other,rest⟩
    · simp
    · rw [List.flatMap_cons,ih (by simp),List.intercalate_cons_cons]
      simp

private theorem intercalate_nonempty {α : Type} (separator : List α) {piece : List α} (nonempty : piece ≠ [])
    (rest : List (List α)) : separator.intercalate (piece :: rest) ≠ [] := by
  cases rest with
  | nil => simpa using nonempty
  | cons other rest => simp [List.intercalate_cons_cons,nonempty]

private theorem hostOf_toList (labels : List Label) :
    (hostOf labels).toList = ['.'].intercalate (labels.map (fun label => (asciiText label.bytes).toList)) := by
  simp [hostOf,join,Function.comp_def]

/-- Only the last dot is taken off. -/
theorem removeDot_dotted {labels : List Label} (plain : ∀ label ∈ labels, Plain label) :
    removeDot (dotted labels "") = hostOf labels := by
  have text := dotted_toList plain ""
  by_cases empty : labels = []
  · subst empty
    rfl
  · rw [flatMap_separator _ (by simpa using empty),← hostOf_toList] at text
    simp [removeDot,text]

/-- No dot is left at the end. -/
theorem hostOf_getLast {labels : List Label} (plain : ∀ label ∈ labels, Plain label) :
    (hostOf labels).toList.getLast? ≠ some '.' := by
  rw [hostOf_toList]
  induction labels with
  | nil => simp
  | cons label labels ih =>
    have rest := ih (fun other member => plain other (List.mem_cons_of_mem _ member))
    have text := (plain label List.mem_cons_self).text
    rcases labels with _ | ⟨other,labels⟩
    · intro last
      simp only [List.map_cons,List.map_nil,List.intercalate_singleton] at last
      exact text.2 (List.mem_of_getLast? last)
    · have another := intercalate_nonempty ['.'] (plain other (by simp)).text.1
        (labels.map (fun label => (asciiText label.bytes).toList))
      simp only [List.map_cons,List.intercalate_cons_cons] at rest ⊢
      rw [List.getLast?_append_of_ne_nil _ another]
      exact rest

/-! ### Every buffer and every query -/

/-- Every message whose first question has an uncompressed name asks for it. -/
theorem asks_frame {message : Message} {labels : List Label} {qtype qclass : UInt16} {more : List Question}
    (asks : message.questions = ⟨⟨labels,none⟩,qtype,qclass⟩ :: more) : Asks (frame message.encode) labels := by
  refine ⟨beBytes 2 message.encode.length ++ (word message.id ++ word message.flags ++
    beBytes 2 message.questions.length ++ beBytes 2 message.answers.length ++ beBytes 2 message.authority.length ++
    beBytes 2 message.additional.length),
    word qtype ++ word qclass ++ more.flatMap Question.encode ++ message.answers.flatMap Record.encode ++
    message.authority.flatMap Record.encode ++ message.additional.flatMap Record.encode,by simp [word],?_⟩
  have questions : message.questions.flatMap Question.encode = labels.flatMap Label.encode ++
      0 :: (word qtype ++ word qclass ++ more.flatMap Question.encode) := by
    simp [asks,Question.encode,Name.encode]
  unfold frame
  generalize message.encode.length = n
  simp [Message.encode,questions]

/-- `getName` stops one byte behind the zero. -/
theorem Asks.named {labels : List Label} (asks : Asks buffer labels) :
    getName buffer 14 "" = .ok (((14 + (labels.flatMap Label.encode).length + 1 : Nat) : Int),dotted labels "") := by
  obtain ⟨header,back,long,rfl⟩ := asks
  have read := getName_labels header labels back ""
  have name : Name.encode ⟨labels,none⟩ = labels.flatMap Label.encode ++ [0] := rfl
  rw [long,name,List.append_assoc,List.singleton_append] at read
  rw [show (14 : Int) = ((14 : Nat) : Int) from rfl,read]
  simp
  omega

/-- For every buffer the calls of `getName` come to an end, and all of them are orderly.
    When it fails, nothing is remembered and nothing is sent. For a query of plain labels
    it stops one byte behind their zero, and whatever is sent asks the server for the
    labels joined by dots. -/
theorem getName_parses (buffer : Buffer) :
    (∃ visited, Visits buffer 14 "" visited (getName buffer 14 "")) ∧
    (∀ visited result, Visits buffer 14 "" visited result → Orderly buffer 14 visited result) ∧
    (∀ failure, getName buffer 14 "" = .error failure → ∀ env draw s world,
      (handleQuery env draw s buffer).run world = some (.error failure,world,[])) ∧
    ∀ labels, Asks buffer labels → (∀ label ∈ labels, Plain label) →
      (∃ sb, getName buffer 14 "" = .ok (((14 + (labels.flatMap Label.encode).length + 1 : Nat) : Int),sb)) ∧
      (hostOf labels).toList.getLast? ≠ some '.' ∧
      ∀ env draw s world, ∃ result outputs,
        (handleQuery env draw s buffer).run world = some (result,world.ask draw.uuid s buffer,outputs) ∧
        (∀ o ∈ outputs, ∃ w m, o = .send w m ∧
          upstream? env.platform env.userInfo m = some (.dns (some (hostOf labels)) (some draw.uuid))) ∧
        (Able env → (∃ w, Online world w) → outputs ≠ []) := by
  refine ⟨visits_getName buffer 14 "",fun _ _ visits => visits.orderly,?_,?_⟩
  · intro failure failed env draw s world
    rcases handleQuery_run env draw s buffer world with ⟨failure',failed',ran⟩ | ⟨_,_,_,named,-⟩
    · cases failed.symm.trans failed'
      exact ran
    · cases failed.symm.trans named
  · intro labels asks plain
    refine ⟨⟨_,asks.named⟩,hostOf_getLast plain,?_⟩
    intro env draw s world
    rcases handleQuery_run env draw s buffer world with ⟨failure,failed,-⟩ | ⟨offset,sb,message,named,made,ran⟩
    · cases asks.named.symm.trans failed
    · cases asks.named.symm.trans named
      rw [removeDot_dotted plain] at made
      have carries := dnsQuery_carries draw world made
      refine ⟨_,_,ran,?_,?_⟩
      · intro o member
        obtain ⟨w,frame,-,-,-,rfl,-⟩ := mem_transmission member
        exact ⟨w,_,rfl,carries.2 w _ member⟩
      · rintro able ⟨w,online⟩
        obtain ⟨m,sent,-⟩ := carries.sends able online
        simp [sent]

/-- A compression pointer would lead backwards. -/
example (header back : Buffer) (long : header.length = 14) :
    getName (header ++ 0xC0 :: 0x0C :: back) 14 "" = .error .negativeArraySize := by
  have byte := getByte_at header (0x0C :: back) 0xC0 (i := 14) (by simp [long])
  exact getName_cut byte (by decide) (getBytes_backwards _ (by decide))

end WSocks.Labels
