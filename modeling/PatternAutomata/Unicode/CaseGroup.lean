import PatternAutomata.Unicode.Packed

/-!
# Letters that differ in case alone

Simple case folding puts characters into groups: the members of a group fold to the same character.
A set is closed under case by adding every group that it meets.
-/
namespace PatternAutomata.Unicode

/-- The groups of three and four characters. -/
def largerCaseGroups : List (List Char) := [
  ['\u004B', '\u006B', '\u212A'],
  ['\u0053', '\u0073', '\u017F'],
  ['\u00B5', '\u039C', '\u03BC'],
  ['\u00C5', '\u00E5', '\u212B'],
  ['\u01C4', '\u01C5', '\u01C6'],
  ['\u01C7', '\u01C8', '\u01C9'],
  ['\u01CA', '\u01CB', '\u01CC'],
  ['\u01F1', '\u01F2', '\u01F3'],
  ['\u0345', '\u0399', '\u03B9', '\u1FBE'],
  ['\u0392', '\u03B2', '\u03D0'],
  ['\u0395', '\u03B5', '\u03F5'],
  ['\u0398', '\u03B8', '\u03D1', '\u03F4'],
  ['\u039A', '\u03BA', '\u03F0'],
  ['\u03A0', '\u03C0', '\u03D6'],
  ['\u03A1', '\u03C1', '\u03F1'],
  ['\u03A3', '\u03C2', '\u03C3'],
  ['\u03A6', '\u03C6', '\u03D5'],
  ['\u03A9', '\u03C9', '\u2126'],
  ['\u0412', '\u0432', '\u1C80'],
  ['\u0414', '\u0434', '\u1C81'],
  ['\u041E', '\u043E', '\u1C82'],
  ['\u0421', '\u0441', '\u1C83'],
  ['\u0422', '\u0442', '\u1C84', '\u1C85'],
  ['\u042A', '\u044A', '\u1C86'],
  ['\u0462', '\u0463', '\u1C87'],
  ['\u1C88', '\uA64A', '\uA64B'],
  ['\u1E60', '\u1E61', '\u1E9B']]

/-- The groups of two, as runs of numbers in packed form: how far a run begins after the one before
it, how many groups it has, the distance from one group to the next, and the distance between the
two members of a group. -/
def packedCasePairs : List String :=
  ["cNKBbGLICbGBDCbGIDCbGeDQCbGBCCbGGICbGSDCbGGBBlgXbGBBeRBYCBbYDCBHICBRXCBbVDCBHBBhNBBBiCBC",
   "CBEBBhYBBBBCCBhXCBBBDBBdBBBBhUBBBhVBBBBCBBhXBBBhZBBBdTBBBiDBBBiBBBBBCBBgHBBBckyZBBBiDBBB",
   "iFBBBfABBBiGBDCBGBBiKBBBBCBBiKDBBBCBBiKBBBBCCBiJCCCBEBBiLBBBBEBBBDBBcEOICBRJCBWBBBEUCBbQ",
   "JCBYBBpzFBBBBDBBpzCBCBpzZCBBBDBBcRBBBcTBFCBKBBpyTBBBpyQBBBpySKBBckpRFBBckpNDBBckqPBBB",
   "ckoEBBBckpGEBBckpGBBBpxFBBBckpDFBBpxLMBBpwPFBBckpFFBBckoGWBBcknLBBBcknIiCCCBGBBBFDBfAEBB",
   "eMHBBbMCDBbLEBBcMCCBcLCBBksHBCCbGDCCbGDBBbGEDCbGDBBbGGCBbGDCBbGDCBbGGBBkrRbFBBIJMCBbABBH",
   "FBBBDBBBGQBdCQCBbGDHCbGDECbGKBBbGDHBbGIFBbGcBBBBEPCBbMbBCBcCBBPBHCBPbWCBdTbMBbWeiPbMBktK",
   "bNBBktKGBBktKDbRBelSbTDBelSzZdCBcfmUdCGBIdgRBBBjGBBcagYEBBfqSRBBcaiYeKbWCBdUbACBcKbWCBdS",
   "IBIQGBIQIBIQIBIQGBIRECIPIBIQCBcWCEBdIECBdWCCBeYCCBeICCBeWEIBIQIBIQIBIQCBIDBBJQBBJNCBIQCB",
   "IFBBHOBBJmHBBbCbUQBQbJBBBbfNbABbActUbWBbWdSBBBHDCBLBBBDBBBLbYCBeDCCBHBBBbtyKFCBMRCBcAOCB",
   "gGHCBQbFCBcTCCBFFCBNBBBFCCBEBBbWCKCBbDBBbjSBICBTCCBFBBBEBBBGDCBbFBBBbflWBBBboMbABbGbvZbO",
   "BbOgUbKBbOhKTCbNBFCbNMHCbNQDCbNIBBbNcqDbZBcMiAWBbGehKbGBbGbglCbGBbGbumQbIBbI"]

/-- The groups that runs of four numbers stand for. -/
def casePairsFrom (start : Nat) : List Nat → List (List Char)
  | skip :: count :: stride :: apart :: rest =>
    let first := start + skip
    (List.range count).map (fun i =>
      [Char.ofNat (first + i * stride), Char.ofNat (first + i * stride + apart)])
      ++ casePairsFrom first rest
  | _ => []

/-- All groups of characters that differ in case alone. -/
def caseGroups : List (List Char) :=
  largerCaseGroups ++ casePairsFrom 0 (Packed.numbers packedCasePairs)

/-- The group of a character, unless it stands alone. -/
def caseGroup? (c : Char) : Option (List Char) :=
  caseGroups.find? (·.contains c)

/-- The set with every character that differs from a member in case alone. -/
def foldCase (set : CharSet) : CharSet :=
  let met := caseGroups.filter fun group => group.any set.contains
  .ofRanges (set.ranges ++ met.flatten.map .single)

/-- The set of bytes with every ASCII letter that differs from a member in case alone. -/
def foldAsciiCase (set : ByteSet) : ByteSet :=
  let letters := (List.range 26).filter fun i =>
    set.contains (UInt8.ofNat (65 + i)) || set.contains (UInt8.ofNat (97 + i))
  .ofRanges <| set.ranges ++ letters.flatMap fun i =>
    [.single (UInt8.ofNat (65 + i)), .single (UInt8.ofNat (97 + i))]

end PatternAutomata.Unicode
