import TemplateCatalog.Text.Hidden
import TemplateCatalog.Text.Joining
import TemplateCatalog.Text.LetterCase

/-!
# Characters of domain names

Domain names do not tell capital letters from small ones, nor a letter from the same letter in
another width or typeface; some characters count for nothing, and some cannot stand in a name at
all. What matters of a character is whether it is allowed, and whether it is read as an ASCII
character.

Main statement: `reading?_of_isLower`, a small letter is read as itself.
-/

namespace TemplateCatalog.Url.Domain

open Text (Spans inSpans)

/-- Consecutive characters that stand for consecutive characters. -/
structure StandIn where
  /-- The number of the first character. -/
  first : Nat
  /-- The number of the last character. -/
  last : Nat
  /-- The number of the character that the first one stands for. -/
  target : Nat

/-- The character that a character stands for by the given span. -/
def StandIn.image? (c : Char) (span : StandIn) : Option Char :=
  if span.first ≤ c.toNat && c.toNat ≤ span.last then
    some (Char.ofNat (c.toNat - span.first + span.target))
  else none

/-- The characters that count for nothing. -/
def ignoredSpans : Spans := [
    (173, 173), (847, 847), (4447, 4448), (6068, 6069), (6155, 6159), (8203, 8203), (8288, 8292),
    (8298, 8303), (12644, 12644), (65024, 65039), (65279, 65279), (65440, 65440), (113824, 113827),
    (119155, 119162), (917760, 917999)]

/-- Characters that show but cannot stand in a name. -/
def refusedSpans : Spans := [
    (168, 168), (175, 175), (180, 180), (184, 184), (728, 733), (890, 890), (900, 901),
    (8125, 8125), (8127, 8129), (8141, 8143), (8157, 8159), (8173, 8174), (8189, 8190),
    (8215, 8215), (8228, 8230), (8254, 8254), (8263, 8265), (8448, 8449), (8453, 8454),
    (9352, 9371), (10868, 10868), (12272, 12287), (12443, 12444), (12783, 12783), (13250, 13250),
    (13255, 13255), (13272, 13272), (64606, 64611), (65018, 65019), (65042, 65043), (65046, 65046),
    (65049, 65049), (65072, 65072), (65095, 65100), (65106, 65106), (65109, 65110), (65119, 65119),
    (65124, 65125), (65128, 65128), (65130, 65131), (65136, 65136), (65138, 65138), (65140, 65140),
    (65142, 65142), (65144, 65144), (65146, 65146), (65148, 65148), (65150, 65150), (65283, 65283),
    (65285, 65285), (65295, 65295), (65306, 65306), (65308, 65308), (65310, 65312), (65339, 65342),
    (65372, 65372), (65507, 65507), (65532, 65533), (127232, 127232)]

/-- The characters that stand for other single characters. -/
def standInSpans : List StandIn := [
    ⟨170, 170, 97⟩, ⟨178, 179, 50⟩, ⟨185, 185, 49⟩, ⟨186, 186, 111⟩, ⟨383, 383, 115⟩,
    ⟨688, 688, 104⟩, ⟨690, 690, 106⟩, ⟨691, 691, 114⟩, ⟨695, 695, 119⟩, ⟨696, 696, 121⟩,
    ⟨737, 737, 108⟩, ⟨738, 738, 115⟩, ⟨739, 739, 120⟩, ⟨894, 894, 59⟩, ⟨7468, 7468, 97⟩,
    ⟨7470, 7470, 98⟩, ⟨7472, 7473, 100⟩, ⟨7475, 7482, 103⟩, ⟨7484, 7484, 111⟩, ⟨7486, 7486, 112⟩,
    ⟨7487, 7487, 114⟩, ⟨7488, 7489, 116⟩, ⟨7490, 7490, 119⟩, ⟨7491, 7491, 97⟩, ⟨7495, 7495, 98⟩,
    ⟨7496, 7497, 100⟩, ⟨7501, 7501, 103⟩, ⟨7503, 7503, 107⟩, ⟨7504, 7504, 109⟩, ⟨7506, 7506, 111⟩,
    ⟨7510, 7510, 112⟩, ⟨7511, 7512, 116⟩, ⟨7515, 7515, 118⟩, ⟨7522, 7522, 105⟩, ⟨7523, 7523, 114⟩,
    ⟨7524, 7525, 117⟩, ⟨7580, 7580, 99⟩, ⟨7584, 7584, 102⟩, ⟨7611, 7611, 122⟩, ⟨8175, 8175, 96⟩,
    ⟨8304, 8304, 48⟩, ⟨8305, 8305, 105⟩, ⟨8308, 8313, 52⟩, ⟨8314, 8314, 43⟩, ⟨8316, 8316, 61⟩,
    ⟨8317, 8318, 40⟩, ⟨8319, 8319, 110⟩, ⟨8320, 8329, 48⟩, ⟨8330, 8330, 43⟩, ⟨8332, 8332, 61⟩,
    ⟨8333, 8334, 40⟩, ⟨8336, 8336, 97⟩, ⟨8337, 8337, 101⟩, ⟨8338, 8338, 111⟩, ⟨8339, 8339, 120⟩,
    ⟨8341, 8341, 104⟩, ⟨8342, 8345, 107⟩, ⟨8346, 8346, 112⟩, ⟨8347, 8348, 115⟩, ⟨8450, 8450, 99⟩,
    ⟨8458, 8459, 103⟩, ⟨8460, 8460, 104⟩, ⟨8461, 8461, 104⟩, ⟨8462, 8462, 104⟩, ⟨8464, 8464, 105⟩,
    ⟨8465, 8465, 105⟩, ⟨8466, 8466, 108⟩, ⟨8467, 8467, 108⟩, ⟨8469, 8469, 110⟩, ⟨8473, 8475, 112⟩,
    ⟨8476, 8476, 114⟩, ⟨8477, 8477, 114⟩, ⟨8484, 8484, 122⟩, ⟨8488, 8488, 122⟩, ⟨8490, 8490, 107⟩,
    ⟨8492, 8493, 98⟩, ⟨8495, 8495, 101⟩, ⟨8496, 8497, 101⟩, ⟨8499, 8499, 109⟩, ⟨8500, 8500, 111⟩,
    ⟨8505, 8505, 105⟩, ⟨8517, 8517, 100⟩, ⟨8518, 8519, 100⟩, ⟨8520, 8521, 105⟩, ⟨8544, 8544, 105⟩,
    ⟨8548, 8548, 118⟩, ⟨8553, 8553, 120⟩, ⟨8556, 8556, 108⟩, ⟨8557, 8558, 99⟩, ⟨8559, 8559, 109⟩,
    ⟨8560, 8560, 105⟩, ⟨8564, 8564, 118⟩, ⟨8569, 8569, 120⟩, ⟨8572, 8572, 108⟩, ⟨8573, 8574, 99⟩,
    ⟨8575, 8575, 109⟩, ⟨9312, 9320, 49⟩, ⟨9398, 9423, 97⟩, ⟨9424, 9449, 97⟩, ⟨9450, 9450, 48⟩,
    ⟨11388, 11388, 106⟩, ⟨11389, 11389, 118⟩, ⟨12290, 12290, 46⟩, ⟨42993, 42993, 115⟩,
    ⟨42994, 42994, 99⟩, ⟨42995, 42995, 102⟩, ⟨42996, 42996, 113⟩, ⟨64297, 64297, 43⟩,
    ⟨65040, 65040, 44⟩, ⟨65044, 65044, 59⟩, ⟨65045, 65045, 33⟩, ⟨65075, 65075, 95⟩,
    ⟨65076, 65076, 95⟩, ⟨65077, 65078, 40⟩, ⟨65079, 65079, 123⟩, ⟨65080, 65080, 125⟩,
    ⟨65101, 65101, 95⟩, ⟨65102, 65102, 95⟩, ⟨65103, 65103, 95⟩, ⟨65104, 65104, 44⟩,
    ⟨65108, 65108, 59⟩, ⟨65111, 65111, 33⟩, ⟨65113, 65114, 40⟩, ⟨65115, 65115, 123⟩,
    ⟨65116, 65116, 125⟩, ⟨65120, 65120, 38⟩, ⟨65121, 65122, 42⟩, ⟨65123, 65123, 45⟩,
    ⟨65126, 65126, 61⟩, ⟨65129, 65129, 36⟩, ⟨65281, 65282, 33⟩, ⟨65284, 65284, 36⟩,
    ⟨65286, 65294, 38⟩, ⟨65296, 65305, 48⟩, ⟨65307, 65307, 59⟩, ⟨65309, 65309, 61⟩,
    ⟨65313, 65338, 97⟩, ⟨65343, 65371, 95⟩, ⟨65373, 65374, 125⟩, ⟨65377, 65377, 46⟩,
    ⟨67493, 67493, 113⟩, ⟨117974, 117999, 97⟩, ⟨118000, 118009, 48⟩, ⟨119808, 119833, 97⟩,
    ⟨119834, 119859, 97⟩, ⟨119860, 119885, 97⟩, ⟨119886, 119892, 97⟩, ⟨119894, 119911, 105⟩,
    ⟨119912, 119937, 97⟩, ⟨119938, 119963, 97⟩, ⟨119964, 119964, 97⟩, ⟨119966, 119967, 99⟩,
    ⟨119970, 119970, 103⟩, ⟨119973, 119974, 106⟩, ⟨119977, 119980, 110⟩, ⟨119982, 119989, 115⟩,
    ⟨119990, 119993, 97⟩, ⟨119995, 119995, 102⟩, ⟨119997, 120003, 104⟩, ⟨120005, 120015, 112⟩,
    ⟨120016, 120041, 97⟩, ⟨120042, 120067, 97⟩, ⟨120068, 120069, 97⟩, ⟨120071, 120074, 100⟩,
    ⟨120077, 120084, 106⟩, ⟨120086, 120092, 115⟩, ⟨120094, 120119, 97⟩, ⟨120120, 120121, 97⟩,
    ⟨120123, 120126, 100⟩, ⟨120128, 120132, 105⟩, ⟨120134, 120134, 111⟩, ⟨120138, 120144, 115⟩,
    ⟨120146, 120171, 97⟩, ⟨120172, 120197, 97⟩, ⟨120198, 120223, 97⟩, ⟨120224, 120249, 97⟩,
    ⟨120250, 120275, 97⟩, ⟨120276, 120301, 97⟩, ⟨120302, 120327, 97⟩, ⟨120328, 120353, 97⟩,
    ⟨120354, 120379, 97⟩, ⟨120380, 120405, 97⟩, ⟨120406, 120431, 97⟩, ⟨120432, 120457, 97⟩,
    ⟨120458, 120483, 97⟩, ⟨120782, 120791, 48⟩, ⟨120792, 120801, 48⟩, ⟨120802, 120811, 48⟩,
    ⟨120812, 120821, 48⟩, ⟨120822, 120831, 48⟩, ⟨127275, 127275, 99⟩, ⟨127276, 127276, 114⟩,
    ⟨127280, 127305, 97⟩, ⟨130032, 130041, 48⟩]

/-- The characters that stand for numbers of two digits, each span with its first number. -/
def numberSpans : List StandIn := [⟨9321, 9331, 10⟩, ⟨12881, 12895, 21⟩, ⟨12977, 12991, 36⟩]

/-- The characters, other than capital letters, that stand for others. -/
def alteredSpans : Spans := [
    (181, 181), (188, 190), (307, 307), (320, 320), (329, 329), (454, 460), (499, 499), (689, 694),
    (736, 740), (832, 833), (835, 837), (884, 884), (903, 903), (976, 982), (1008, 1010),
    (1013, 1013), (1415, 1415), (1653, 1656), (2392, 2399), (2524, 2527), (2611, 2611),
    (2614, 2614), (2649, 2651), (2654, 2654), (2908, 2909), (3635, 3635), (3763, 3763),
    (3804, 3805), (3852, 3852), (3907, 3907), (3917, 3917), (3922, 3922), (3927, 3927),
    (3932, 3932), (3945, 3945), (3955, 3955), (3957, 3961), (3969, 3969), (3987, 3987),
    (3997, 3997), (4002, 4002), (4007, 4007), (4012, 4012), (4025, 4025), (4348, 4348),
    (5112, 5117), (7296, 7305), (7469, 7469), (7474, 7474), (7485, 7500), (7505, 7530),
    (7544, 7544), (7579, 7615), (7834, 7835), (8049, 8049), (8051, 8051), (8053, 8053),
    (8055, 8055), (8057, 8057), (8059, 8059), (8061, 8103), (8114, 8116), (8119, 8132),
    (8135, 8135), (8147, 8147), (8163, 8163), (8178, 8180), (8183, 8183), (8209, 8209),
    (8243, 8244), (8246, 8247), (8252, 8252), (8279, 8279), (8315, 8340), (8360, 8360),
    (8451, 8451), (8455, 8455), (8457, 8463), (8470, 8470), (8480, 8482), (8501, 8504),
    (8507, 8512), (8528, 8571), (8585, 8585), (8748, 8749), (8751, 8752), (9001, 9002),
    (9321, 9397), (10764, 10764), (10869, 10870), (10972, 10972), (11631, 11631), (11935, 11935),
    (12019, 12245), (12342, 12342), (12344, 12346), (12447, 12447), (12543, 12543), (12593, 12686),
    (12690, 12703), (12800, 12871), (12880, 12926), (12928, 13311), (42652, 42653), (42864, 42864),
    (42955, 42956), (42958, 42958), (42962, 42962), (42964, 42964), (42970, 42970), (42972, 42972),
    (43000, 43001), (43868, 43871), (43881, 43881), (43888, 43967), (63744, 64013), (64016, 64016),
    (64018, 64018), (64021, 64030), (64032, 64032), (64034, 64034), (64037, 64038), (64042, 64285),
    (64287, 64433), (64467, 64829), (64848, 64911), (64914, 64967), (65008, 65020), (65041, 65048),
    (65073, 65092), (65105, 65137), (65143, 65518), (67457, 67514), (68944, 68965), (93856, 93880),
    (119134, 119140), (119227, 119232), (120484, 120779), (122928, 122989), (126464, 126651),
    (127233, 127242), (127248, 127278), (127306, 127311), (127338, 127340), (127376, 127376),
    (127488, 127569), (194560, 195101)]

/-- The ASCII character cannot stand in a host. -/
def isHostMark (c : Char) : Bool :=
  "\x00\t\n\r #/:<>?@[\\]^|".toList.contains c

/-- The ASCII character cannot stand in a domain name. -/
def isDomainMark (c : Char) : Bool :=
  isHostMark c || c.toNat < 0x20 || c == '%' || c.toNat == 0x7F

/-- The character joins or keeps apart without a width. -/
def isJoiner (c : Char) : Bool :=
  c == Text.zeroWidthJoiner || c == Text.zeroWidthNonJoiner

/-- The character beyond ASCII cannot stand in a domain name. -/
def isRefused (c : Char) : Bool :=
  inSpans refusedSpans c || (Text.isHidden c && !Text.isMark c && !isJoiner c)

/-- The characters that a character is read as, if it can stand in a domain name. -/
def reading? (c : Char) : Option (List Char) :=
  if c.toNat < 0x80 then if isDomainMark c then none else some [c.toLower]
  else if inSpans ignoredSpans c then some []
  else if isRefused c then none
  else
    match standInSpans.findSome? (·.image? c), numberSpans.findSome? (·.image? c) with
    | some d, _ => some [d]
    | none, some n => some (Nat.toDigits 10 n.toNat)
    | none, none => some [c]

/-- The character stands in a name for itself. -/
def isPlain (c : Char) : Bool :=
  reading? c == some [c] &&
    (c.toNat < 0x80 || !(Text.lowerChars c != [c] || inSpans alteredSpans c))

/-- A small letter of ASCII is read as itself. -/
theorem reading?_of_isLower {c : Char} (lower : c.isLower = true) : reading? c = some [c] := by
  have all : ∀ n < 123,
      (Char.ofNat n).isLower = true → reading? (Char.ofNat n) = some [Char.ofNat n] := by
    decide
  have small : c.toNat < 123 :=
    Nat.lt_succ_of_le
      (UInt32.le_iff_toNat_le.1 (of_decide_eq_true (Bool.and_eq_true_iff.1 lower).2))
  have found := all c.toNat small
  rw [Char.ofNat_toNat] at found
  exact found lower

end TemplateCatalog.Url.Domain
