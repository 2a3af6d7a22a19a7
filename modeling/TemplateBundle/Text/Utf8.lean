/-! Text as bytes. Decoding refuses the first byte that rules the text out and says where it
stands. -/
namespace TemplateBundle.Text

/-- Why a byte sequence is not a text. -/
inductive DecodingFault where
  /-- The `length` bytes at `index` begin no character. -/
  | invalid (length index : Nat)
  /-- The bytes end inside the character that begins at `index`. -/
  | incomplete (index : Nat)
  deriving DecidableEq, Repr

def DecodingFault.message : DecodingFault → String
  | .invalid length index =>
    "invalid utf-8 sequence of " ++ toString length ++ " bytes from index " ++ toString index
  | .incomplete index => "incomplete utf-8 byte sequence from index " ++ toString index

def isContinuation (b : UInt8) : Bool := 0x80 ≤ b && b ≤ 0xBF

def payload (b : UInt8) : Nat := b.toNat % 64

/-- The second bytes that may follow `first` in a character of three bytes. -/
def isSecondOfThree (first second : UInt8) : Bool :=
  if first = 0xE0 then 0xA0 ≤ second && second ≤ 0xBF
  else if first = 0xED then 0x80 ≤ second && second ≤ 0x9F
  else isContinuation second

/-- The second bytes that may follow `first` in a character of four bytes. -/
def isSecondOfFour (first second : UInt8) : Bool :=
  if first = 0xF0 then 0x90 ≤ second && second ≤ 0xBF
  else if first = 0xF4 then 0x80 ≤ second && second ≤ 0x8F
  else isContinuation second

/-- Decodes the bytes that stand at `index` of a longer sequence. -/
def decodeFrom (index : Nat) : List UInt8 → Except DecodingFault (List Char)
  | [] => .ok []
  | a :: rest =>
    if a < 0x80 then
      (Char.ofNat a.toNat :: ·) <$> decodeFrom (index + 1) rest
    else if 0xC2 ≤ a && a ≤ 0xDF then
      match rest with
      | [] => .error (.incomplete index)
      | b :: rest =>
        if isContinuation b then
          (Char.ofNat (a.toNat % 32 * 64 + payload b) :: ·) <$> decodeFrom (index + 2) rest
        else .error (.invalid 1 index)
    else if 0xE0 ≤ a && a ≤ 0xEF then
      match rest with
      | [] => .error (.incomplete index)
      | b :: rest =>
        if isSecondOfThree a b then
          match rest with
          | [] => .error (.incomplete index)
          | c :: rest =>
            if isContinuation c then
              (Char.ofNat ((a.toNat % 16 * 64 + payload b) * 64 + payload c) :: ·) <$>
                decodeFrom (index + 3) rest
            else .error (.invalid 2 index)
        else .error (.invalid 1 index)
    else if 0xF0 ≤ a && a ≤ 0xF4 then
      match rest with
      | [] => .error (.incomplete index)
      | b :: rest =>
        if isSecondOfFour a b then
          match rest with
          | [] => .error (.incomplete index)
          | c :: rest =>
            if isContinuation c then
              match rest with
              | [] => .error (.incomplete index)
              | d :: rest =>
                if isContinuation d then
                  (Char.ofNat (((a.toNat % 8 * 64 + payload b) * 64 + payload c) * 64 +
                    payload d) :: ·) <$> decodeFrom (index + 4) rest
                else .error (.invalid 3 index)
            else .error (.invalid 2 index)
        else .error (.invalid 1 index)
    else .error (.invalid 1 index)

def decode (bytes : List UInt8) : Except DecodingFault String :=
  String.ofList <$> decodeFrom 0 bytes

def encode (s : String) : List UInt8 := s.toList.flatMap String.utf8EncodeChar

/-- A character of seven bits is one byte. -/
theorem decodeFrom_ascii {c : Char} (h : c.toNat < 128) (index : Nat) (rest : List UInt8) :
    decodeFrom index (String.utf8EncodeChar c ++ rest) =
      (c :: ·) <$> decodeFrom (index + 1) rest := by
  have hCode : c.val.toNat ≤ 0x7f := by
    have : c.val.toNat < 128 := h
    omega
  have hByte : (UInt8.ofNat c.val.toNat).toNat = c.toNat := by
    rw [UInt8.toNat_ofNat']
    exact Nat.mod_eq_of_lt (by have : c.val.toNat < 128 := h; omega)
  have hSmall : UInt8.ofNat c.val.toNat < 0x80 := by
    rw [UInt8.lt_iff_toNat_lt, hByte]
    exact h
  have hOne : String.utf8EncodeChar c = [UInt8.ofNat c.val.toNat] := if_pos hCode
  rw [hOne, List.singleton_append, decodeFrom.eq_def]
  simp only [hSmall, ↓reduceIte, hByte, Char.ofNat_toNat]

theorem decode_encode_of_ascii {text : String} (h : ∀ c ∈ text.toList, c.toNat < 128) :
    decode (encode text) = .ok text := by
  have hChars (index : Nat) (cs : List Char) (hAscii : ∀ c ∈ cs, c.toNat < 128) :
      decodeFrom index (cs.flatMap String.utf8EncodeChar) = .ok cs := by
    induction cs generalizing index with
    | nil => rfl
    | cons c cs ih =>
        rw [List.flatMap_cons, decodeFrom_ascii (hAscii c List.mem_cons_self),
          ih _ fun d hd => hAscii d (List.mem_cons_of_mem c hd)]
        rfl
  rw [decode, encode, hChars 0 text.toList h]
  exact congrArg Except.ok String.ofList_toList

end TemplateBundle.Text
