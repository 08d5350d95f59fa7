/-! Every property name of the Unicode Character Database, version 16.0, that a class may spell
besides the binary properties: a name found here is a property, so a class naming it fails with
"property not found" alone and "property value not found" with a value it does not support. -/

namespace Descent

namespace Regex

namespace Ucd

/-- The names of the properties of the database that are not binary properties of
`binaryRanges`, canonical name first: the properties that take values, those whose values are
texts or numbers, and the binary properties that classes do not support. -/
def propertyNames : List (List String) := [
  ["kAccountingNumeric", "cjkAccountingNumeric"],
  ["kOtherNumeric", "cjkOtherNumeric"],
  ["kPrimaryNumeric", "cjkPrimaryNumeric"],
  ["Numeric_Value", "nv"],
  ["Bidi_Mirroring_Glyph", "bmg"],
  ["Bidi_Paired_Bracket", "bpb"],
  ["Case_Folding", "cf"],
  ["kCompatibilityVariant", "cjkCompatibilityVariant"],
  ["Decomposition_Mapping", "dm"],
  ["Equivalent_Unified_Ideograph", "EqUIdeo"],
  ["FC_NFKC_Closure", "FC_NFKC"],
  ["Lowercase_Mapping", "lc"],
  ["NFKC_Casefold", "NFKC_CF"],
  ["NFKC_Simple_Casefold", "NFKC_SCF"],
  ["Simple_Case_Folding", "scf", "sfc"],
  ["Simple_Lowercase_Mapping", "slc"],
  ["Simple_Titlecase_Mapping", "stc"],
  ["Simple_Uppercase_Mapping", "suc"],
  ["Titlecase_Mapping", "tc"],
  ["Uppercase_Mapping", "uc"],
  ["kIICore", "cjkIICore"],
  ["kIRG_GSource", "cjkIRG_GSource"],
  ["kIRG_HSource", "cjkIRG_HSource"],
  ["kIRG_JSource", "cjkIRG_JSource"],
  ["kIRG_KPSource", "cjkIRG_KPSource"],
  ["kIRG_KSource", "cjkIRG_KSource"],
  ["kIRG_MSource", "cjkIRG_MSource"],
  ["kIRG_SSource", "cjkIRG_SSource"],
  ["kIRG_TSource", "cjkIRG_TSource"],
  ["kIRG_UKSource", "cjkIRG_UKSource"],
  ["kIRG_USource", "cjkIRG_USource"],
  ["kIRG_VSource", "cjkIRG_VSource"],
  ["kRSUnicode", "cjkRSUnicode", "Unicode_Radical_Stroke", "URS"],
  ["ISO_Comment", "isc"],
  ["Jamo_Short_Name", "JSN"],
  ["kEH_Cat"],
  ["kEH_Desc"],
  ["kEH_HG"],
  ["kEH_IFAO"],
  ["kEH_JSesh"],
  ["Name", "na"],
  ["Unicode_1_Name", "na1"],
  ["Name_Alias"],
  ["Script_Extensions", "scx"],
  ["Age", "age"],
  ["Block", "blk"],
  ["Script", "sc"],
  ["Bidi_Class", "bc"],
  ["Bidi_Paired_Bracket_Type", "bpt"],
  ["Canonical_Combining_Class", "ccc"],
  ["Decomposition_Type", "dt"],
  ["East_Asian_Width", "ea"],
  ["General_Category", "gc"],
  ["Grapheme_Cluster_Break", "GCB"],
  ["Hangul_Syllable_Type", "hst"],
  ["Indic_Conjunct_Break", "InCB"],
  ["Indic_Positional_Category", "InPC"],
  ["Indic_Syllabic_Category", "InSC"],
  ["Joining_Group", "jg"],
  ["Joining_Type", "jt"],
  ["Line_Break", "lb"],
  ["NFC_Quick_Check", "NFC_QC"],
  ["NFD_Quick_Check", "NFD_QC"],
  ["NFKC_Quick_Check", "NFKC_QC"],
  ["NFKD_Quick_Check", "NFKD_QC"],
  ["Numeric_Type", "nt"],
  ["Sentence_Break", "SB"],
  ["Vertical_Orientation", "vo"],
  ["Word_Break", "WB"],
  ["Composition_Exclusion", "CE"],
  ["Full_Composition_Exclusion", "Comp_Ex"],
  ["Changes_When_NFKC_Casefolded", "CWKCF"],
  ["kEH_NoMirror"],
  ["kEH_NoRotate"],
  ["Expands_On_NFC", "XO_NFC"],
  ["Expands_On_NFD", "XO_NFD"],
  ["Expands_On_NFKC", "XO_NFKC"],
  ["Expands_On_NFKD", "XO_NFKD"]]

end Ucd

end Regex

end Descent
