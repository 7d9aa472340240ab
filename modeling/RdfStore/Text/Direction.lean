import RdfStore.Text.Properties

/-!
# The direction of writing

How characters behave where texts that run from left to right and from right to left are mixed,
and the condition under which a word can be read the same way in both surroundings. The classes
hold for the characters that words may be made of.
-/

namespace RdfStore.Text

inductive Direction where
  | left
  | right
  | europeanNumber
  | arabicNumber
  | mark
  | neutral
  deriving DecidableEq, Repr

/-- The nonspacing marks that version 17 of Unicode adds. -/
def laterMarkRanges : List CodeRange := readRanges
  "1ACF-1ADD 1AE0-1AEB 10EFA-10EFB 11B60 11B62-11B64 11B66 1E6E3 1E6E6 1E6EE-1E6EF 1E6F5"

def nonspacingRanges : List CodeRange :=
  ["mn", "me"].flatMap categoryRanges ++ laterMarkRanges

/-- The nonspacing marks that are written like letters from left to right. -/
def leftMarkRanges : List CodeRange := readRanges "CBF CC6 11A07-11A08 11C3F"

/-- The letters that are written from right to left. -/
def rightRanges : List CodeRange := readRanges
  "5BE 5C0 5C3 5C6 5D0-5F4 608 60B 60D 61B-64A 66D-66F 671-6D5 6E5-6E6 6EE-6EF 6FA-710 712-72F
   74D-7A5 7B1-7EA 7F4-7F5 7FA 7FE-815 81A 824 828 830-858 85E-88F 8A0-8C9 FBB2-FBC2 FE73
   10800-1091B 10920-10A00 10A10-10A35 10A40-10AE4 10AEB-10B35 10B40-10D23 10D4A-10D4F 10D6F-10D8F
   10E80-10EA9 10EAD-10EC7 10F00-10F45 10F51-10F81 10F86-10FF6 1E800-1E8CF 1E922-1E943 1E94B-1ED3D"

def europeanNumberRanges : List CodeRange := readRanges
  "30-39 6F0-6F9 102E1-102FB"

def arabicNumberRanges : List CodeRange := readRanges
  "660-669 66B-66C 10D30-10D49 10E60-10E7E"

def neutralRanges : List CodeRange := readRanges
  "21-2F 3A-40 5B-60 7B-7E A1-D7 F7 2B9-2BA 2C2-2CF 2D2-2ED 2EF-2FF 375 3F6 58A-58F 606-607 609-60A
   60C 60E-60F 66A 6DE 6E9 7F6-7F9 9F2-9F3 9FB AF1 BF3-BFA C78-C7E E3F F3A-F3D 1390-1399 1400
   169B-169C 17DB 17F0-180A 1940-1945 19DE-19FF 200C-20C1 2104-214D 218A-2335 237B-2394 2396-26AB
   26AD-27FF 2900-2BFF 2CE5-2CEA 2CF9-2CFF 2E00-3004 3008-3020 3030 3037 303D-303F 30A0 30FB
   31C0-31E5 4DC0-4DFF A490-A4C6 A60D-A60F A673 A67E-A67F A700-A721 A788 A828-A82B A838-A839
   A874-A877 AB6A-AB6B FBC3-FDFF FE45-FE46 10101 10140-1018C 10190-101A0 1091F 10B39-10B3F 10D6E
   10ED0-10ED8 11052-11065 11660-1166C 11FD5-11FF1 16FE2 1CC00-1CEF0 1D1E9-1D241 1D245 1D300-1D356
   1E2FF 1EEF0-1F12F 1F16D-1F16F 1F1AD 1F260-1FBFA"

def direction (c : Char) : Direction :=
  if c.isAlpha then .left
  else if inRanges europeanNumberRanges c then .europeanNumber
  else if inRanges neutralRanges c then .neutral
  else if inRanges rightRanges c then .right
  else if inRanges arabicNumberRanges c then .arabicNumber
  else if inRanges nonspacingRanges c && !inRanges leftMarkRanges c then .mark
  else .left

/-- Whether a character makes the text around it one of mixed direction. -/
def turnsDirection (c : Char) : Bool :=
  128 ≤ c.toNat && direction c ∈ [.right, .arabicNumber]

/-- Whether a word keeps its look in a text of mixed direction. It starts with a letter; before
the marks at its end stands a letter of the same direction or a number; a word from left to right
holds no letter of the other direction and no Arabic digit, a word from right to left no letter of
the other direction and not both kinds of digits. -/
def keepsDirection (word : List Char) : Bool :=
  match word.map direction with
  | [] => true
  | first :: others =>
    match others.reverse.dropWhile (· = .mark) with
    | [] => first = .left || first = .right
    | last :: before =>
      if first = .left then
        last ∈ [.left, .europeanNumber] && before.all fun d => d ∉ [.right, .arabicNumber]
      else if first = .right then
        last ∈ [.right, .europeanNumber, .arabicNumber] && before.all (· ≠ .left) &&
          !([Direction.europeanNumber, .arabicNumber].all fun d => (last :: before).contains d)
      else false

end RdfStore.Text
