import OpenDocs.Text.Case

/-!
# Capitals

A word is capitalized by giving its first letter the form that starts a word, which for some
letters is a capital followed by small letters, and the rest lower case.
-/

namespace OpenDocs.Text

/-- Runs of letters: the gap to the first, how many, their distance, and the step to the form that
starts a word. -/
def titleRuns : List Run := Run.ofGaps
  ["61 1a 1 -20 54 1 1 2e7 2b 17 1 -20 18 7 1 -20 7 1 1 79 2 18 2 -1 30 1 1 -e8 2 3 2 -1 7 8 2",
   "-1 11 17 2 -1 2f 3 2 -1 5 1 1 -12c 1 1 1 c3 3 2 2 -1 5 1 1 -1 4 1 1 -1 6 1 1 -1 3 1 1 61 4 1",
   "1 -1 1 1 1 a3 4 1 1 82 3 3 2 -1 7 1 1 -1 5 1 1 -1 3 1 1 -1 4 2 2 -1 5 1 1 -1 4 1 1 -1 2 1 1",
   "38 5 1 1 1 2 1 1 -1 1 1 1 1 2 1 1 -1 1 1 1 1 2 9 2 -1 11 1 1 -4f 2 9 2 -1 12 1 1 1 2 2 2 -1",
   "6 14 2 -1 2a 9 2 -1 19 1 1 -1 3 2 1 2a3f 3 1 1 -1 5 5 2 -1 9 1 1 2a1f 1 1 1 2a1c 1 1 1 2a1e",
   "1 1 1 -d2 1 1 1 -ce 2 2 1 -cd 3 1 1 -ca 2 1 1 -cb 1 1 1 a54f 4 1 1 -cd 1 1 1 a54b 2 1 1 -cf",
   "2 1 1 a528 1 1 1 a544 2 1 1 -d1 1 1 1 -d3 1 1 1 a544 1 1 1 29f7 1 1 1 a541 3 1 1 -d3 2 1 1",
   "29fd 1 1 1 -d5 3 1 1 -d6 8 1 1 29e7 3 1 1 -da 2 1 1 a543 1 1 1 -da 4 1 1 a52a 1 1 1 -da 1 1",
   "1 -45 1 2 1 -d9 2 1 1 -47 6 1 1 -db b 1 1 a515 1 1 1 a512 a7 1 1 54 2c 2 2 -1 6 1 1 -1 4 3 1",
   "82 31 1 1 -26 1 3 1 -25 4 11 1 -20 11 1 1 -1f 1 9 1 -20 9 1 1 -40 1 2 1 -3f 3 1 1 -3e 1 1 1",
   "-39 4 1 1 -2f 1 1 1 -36 1 1 1 -8 2 c 2 -1 17 1 1 -56 1 1 1 -50 1 1 1 7 1 1 1 -74 2 1 1 -60 3",
   "1 1 -1 3 1 1 -1 35 20 1 -20 20 10 1 -50 11 11 2 -1 2a 1b 2 -1 37 7 2 -1 d 1 1 -f 2 30 2 -1",
   "90 26 1 -30 e97 6 1 -8 888 1 1 -186e 1 1 1 -186d 1 1 1 -1864 1 2 1 -1862 2 1 1 -1863 1 1 1",
   "-185c 1 1 1 -1825 1 1 1 89c2 f1 1 1 8a04 4 1 1 ee6 11 1 1 8a38 73 4b 2 -1 9a 1 1 -3b 6 30 2",
   "-1 5f 8 1 8 10 6 1 8 10 8 1 8 10 8 1 8 10 6 1 8 11 4 2 8 f 8 1 8 10 2 1 4a 2 4 1 56 4 2 1 64",
   "2 2 1 80 2 2 1 70 2 2 1 7e 4 8 1 8 10 8 1 8 10 8 1 8 10 2 1 8 3 1 1 9 b 1 1 -1c25 5 1 1 9 d",
   "2 1 8 10 2 1 8 5 1 1 7 e 1 1 9 15b 1 1 -1c 22 10 1 -10 14 1 1 -1 34c 1a 1 -1a 760 30 1 -30",
   "31 1 1 -1 4 1 1 -2a2b 1 1 1 -2a28 2 3 2 -1 b 1 1 -1 3 1 1 -1 b 32 2 -1 6b 2 2 -1 7 1 1 -1 d",
   "26 1 -1c60 27 1 1 -1c60 6 1 1 -1c60 7914 17 2 -1 40 e 2 -1 a2 7 2 -1 10 1f 2 -1 47 2 2 -1 5",
   "5 2 -1 d 1 1 -1 5 2 2 -1 3 1 1 30 3 a 2 -1 1e 8 2 -1 13 2 2 -1 9 1 1 -1 6 2 2 -1 1f 1 1 -1",
   "35d 1 1 -3a0 1d 50 1 -97d0 53d1 1a 1 -20 4e7 28 1 -28 b0 24 1 -28 bf b 1 -27 c f 1 -27 10 7",
   "1 -27 8 2 1 -27 705 33 1 -40 c00 20 1 -20 55a0 20 1 -20 7ac2 22 1 -22"]

/-- Letters whose form at the start of a word has several code points, each before that form. -/
def titleForms : List String :=
  ["ßSs", "ŉʼN", "ǰJ\u030c", "ΐΙ\u0308\u0301", "ΰΥ\u0308\u0301", "ևԵւ", "ẖH\u0331", "ẗT\u0308",
   "ẘW\u030a", "ẙY\u030a", "ẚAʾ", "ὐΥ\u0313", "ὒΥ\u0313\u0300", "ὔΥ\u0313\u0301",
   "ὖΥ\u0313\u0342", "ᾲᾺ\u0345", "ᾴΆ\u0345", "ᾶΑ\u0342", "ᾷΑ\u0342\u0345", "ῂῊ\u0345",
   "ῄΉ\u0345", "ῆΗ\u0342", "ῇΗ\u0342\u0345", "ῒΙ\u0308\u0300", "ΐΙ\u0308\u0301", "ῖΙ\u0342",
   "ῗΙ\u0308\u0342", "ῢΥ\u0308\u0300", "ΰΥ\u0308\u0301", "ῤΡ\u0313", "ῦΥ\u0342",
   "ῧΥ\u0308\u0342", "ῲῺ\u0345", "ῴΏ\u0345", "ῶΩ\u0342", "ῷΩ\u0342\u0345", "ﬀFf", "ﬁFi", "ﬂFl",
   "ﬃFfi", "ﬄFfl", "ﬅSt", "ﬆSt", "ﬓՄն", "ﬔՄե", "ﬕՄի", "ﬖՎն", "ﬗՄխ"]

def titleChar (c : Char) : List Char :=
  match titleRuns.find? (·.contains c) with
  | some r => [r.shift c]
  | none => ((titleForms.find? (·.toList.head? == some c)).map (·.toList.tail)).getD [c]

def capitalize : List Char → List Char
  | [] => []
  | c :: cs => titleChar c ++ lowerAfter [c] cs

end OpenDocs.Text
