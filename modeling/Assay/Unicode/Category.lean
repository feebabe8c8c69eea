import Assay.Unicode.Runs

/-
  General categories of characters.

  Every code point has exactly one of thirty general categories.  Each is written in the table by
  one letter; `categories` gives its two names.
-/

namespace Assay.Unicode

/-- The letter of each category in the table, its short name and its long name. -/
def categories : List (String × String × String) := [
  ("g", "Cc", "Control"),
  ("h", "Cf", "Format"),
  ("i", "Cn", "Unassigned"),
  ("j", "Co", "Private_Use"),
  ("k", "Cs", "Surrogate"),
  ("l", "Ll", "Lowercase_Letter"),
  ("m", "Lm", "Modifier_Letter"),
  ("n", "Lo", "Other_Letter"),
  ("o", "Lt", "Titlecase_Letter"),
  ("p", "Lu", "Uppercase_Letter"),
  ("q", "Mc", "Spacing_Mark"),
  ("r", "Me", "Enclosing_Mark"),
  ("s", "Mn", "Nonspacing_Mark"),
  ("t", "Nd", "Decimal_Number"),
  ("u", "Nl", "Letter_Number"),
  ("v", "No", "Other_Number"),
  ("w", "Pc", "Connector_Punctuation"),
  ("x", "Pd", "Dash_Punctuation"),
  ("y", "Pe", "Close_Punctuation"),
  ("z", "Pf", "Final_Punctuation"),
  ("G", "Pi", "Initial_Punctuation"),
  ("H", "Po", "Other_Punctuation"),
  ("I", "Ps", "Open_Punctuation"),
  ("J", "Sc", "Currency_Symbol"),
  ("K", "Sk", "Modifier_Symbol"),
  ("L", "Sm", "Math_Symbol"),
  ("M", "So", "Other_Symbol"),
  ("N", "Zl", "Line_Separator"),
  ("O", "Zp", "Paragraph_Separator"),
  ("P", "Zs", "Space_Separator")]

/-- The runs of code points with the same category. -/
def categoryRuns : String :=
  "g20P1H3J1H3I1y1H1L1H1x1H2taH2L3H2p1aI1H1y1K1w1K1l1aI1L1y1L1g21P1H1J4M1H1K1M1n1G1L1h1M1K1M1L1" ++
  "v2K1l1H2K1v1n1z1v3H1p17L1p7l18L1l8p1l1p1l1p1l1p1l1p1l1p1l1p1l1p1l1p1l1p1l1p1l1p1l1p1l1p1l1p1" ++
  "l1p1l1p1l1p1l1p1l1p1l1p1l1p1l1p1l1p1l1p1l1p1l1p1l1p1l2p1l1p1l1p1l1p1l1p1l1p1l1p1l1p1l2p1l1p1" ++
  "l1p1l1p1l1p1l1p1l1p1l1p1l1p1l1p1l1p1l1p1l1p1l1p1l1p1l1p1l1p1l1p1l1p1l1p1l1p1l1p1l1p1l1p2l1p1" ++
  "l1p1l3p2l1p1l1p2l1p3l2p4l1p2l1p3l3p2l1p2l1p1l1p1l1p2l1p1l2p1l1p2l1p3l1p1l1p2l2n1p1l3n4p1o1l1" ++
  "p1o1l1p1o1l1p1l1p1l1p1l1p1l1p1l1p1l1p1l1p1l2p1l1p1l1p1l1p1l1p1l1p1l1p1l1p1l1p1l2p1o1l1p1l1p3" ++
  "l1p1l1p1l1p1l1p1l1p1l1p1l1p1l1p1l1p1l1p1l1p1l1p1l1p1l1p1l1p1l1p1l1p1l1p1l1p1l1p1l1p1l1p1l1p1" ++
  "l1p1l1p1l1p1l1p1l1p1l1p1l7p2l1p2l2p1l1p4l1p1l1p1l1p1l1p1l45n1l1bm12K4mcKem5K7m1K1m1K11s70p1" ++
  "l1p1l1m1K1p1l1i2m1l3H1p1i4K2p1H1p3i1p1i1p2l1p11i1p9l23p1l2p3l3p1l1p1l1p1l1p1l1p1l1p1l1p1l1p1" ++
  "l1p1l1p1l1p1l1p1l5p1l1L1p1l1p2l2p33l30p1l1p1l1p1l1p1l1p1l1p1l1p1l1p1l1p1l1p1l1p1l1p1l1p1l1p1" ++
  "l1p1l1p1l1p1l1M1s5r2p1l1p1l1p1l1p1l1p1l1p1l1p1l1p1l1p1l1p1l1p1l1p1l1p1l1p1l1p1l1p1l1p1l1p1l1" ++
  "p1l1p1l1p1l1p1l1p1l1p1l1p1l1p1l1p1l1p2l1p1l1p1l1p1l1p1l1p1l1p1l2p1l1p1l1p1l1p1l1p1l1p1l1p1l1" ++
  "p1l1p1l1p1l1p1l1p1l1p1l1p1l1p1l1p1l1p1l1p1l1p1l1p1l1p1l1p1l1p1l1p1l1p1l1p1l1p1l1p1l1p1l1p1l1" ++
  "p1l1p1l1p1l1p1l1p1l1p1l1p1l1p1l1p1l1p1l1p1l1p1l1p1l1p1l1p1l1p1l1p1l1p1l1i1p26i2m1H6l29H1x1i2" ++
  "M2J1i1s2dx1s1H1s2H1s2H1s1i8n1bi4n4H2ibh6L3H2J1H2M2sbH1h1H3n20m1nas15taH4n2s1n63H1n1s7h1M1s6" ++
  "m2s2M1s4n2tan3M2n1Hei1h1n1s1n1es1bi2n59sbn1ietan21s9m2M1H3m1i2s1J2n16s4m1s9m1s3m1s5i2Hfi1n19" ++
  "s3i2H1i1nbi5n18K1n6i1h2i6s8n29m1s18h1s20q1n36s1q1s1n1q3s8q4s1q2n1s7nas2H2taH1m1nfs1q2i1n8i2" ++
  "n2i2n16i1n7i1n1i3n4i2s1n1q3s4i2q2i2q2s1n1i8q1i4n2i1n3s2i2tan2J2v6M1J1n1H1s1i2s2q1i1n6i4n2i2" ++
  "n16i1n7i1n2i1n2i1n2i2s1i1q3s2i4s2i2s3i3s1i7n4i1n1i7tas2n3s1H1ias2q1i1n9i1n3i1n16i1n7i1n2i1n5" ++
  "i2s1n1q3s5i1s2q1i1q2s1i2n1ifn2s2i2taH1J1i7n1s6i1s1q2i1n8i2n2i2n16i1n7i1n2i1n5i2s1n1q1s1q1s4" ++
  "i2q2i2q2s1i7s2q1i4n2i1n3s2i2taM1n1v6ias1n1i1n6i3n3i1n4i3n2i1n1i1n2i3n2i3n3i3nci4q2s1q2i3q3i1" ++
  "q3s1i2n1i6q1ietav3M6J1M1i5s1q3s1n8i1n3i1n17i1n10i2s1n1s3q4i1s3i1s4i7s2i1n3i2n1i2n2s2i2tai7H1" ++
  "v7M1n1s1q2H1n8i1n3i1n17i1nai1n5i2s1n1q1s1q5i1s1q2i1q2s2i7q2i6n2i1n2s2i2tai1n2q1ics2q2n9i1n3" ++
  "i1n29s2n1q3s4i1q3i1q3s1n1M1i4n3q1v7n3s2i2tav9M1n6i1s1q2i1n12i3n18i1n9i1n1i2n7i3s1i4q3s3i1s1" ++
  "i1q8i6tai2q2H1icn30s1n2s7i4J1n6m1s8H1taH2i25n2i1n1i1n5i1n18i1n1i1nas1n2s9n1i2n5i1m1i1s7i1ta" ++
  "i2n4i20n1M3HfM1H1M3s2M6tavaM1s1M1s1M1s1I1y1I1y1q2n8i1n24i4seq1s5H1s2n5sbi1s24i1M8s1M6i1M2H5" ++
  "M4H2i25n2bq2s4q1s6q1s2q2s2n1taH6n6q2s2n4s3n1q3n2q7n3s4nds1q2s2q6s1n1q1taq3s1M2p26i1p1i5p1i2" ++
  "l2bH1m1l3n149i1n4i2n7i1n1i1n4i2n29i1n4i2n21i1n4i2n7i1n1i1n4i2nfi1n39i1n4i2n43i2s3H9v14i3n10" ++
  "Mai6p56i2l6i2x1n26cM1H1n11P1n1aI1y1i3n4bH3u3n8i7n12s3q1i9n13s2q1H2i9n12s2icndi1n3i1s2icn34s2" ++
  "q1s7q8s1q2sbH3m1H3J1n1s1i2tai6vai6H6x1H4s3h1s1tai6n23m1n35i7n5s2n22s1n1i5n46ian1fi1s3q4s2q3" ++
  "i4q2s1q6s3i4M1i3H2tan1ei2n5ibn2ci4n1ai6tav1i3M22n17s2q2s1i2H2n35q1s1q1s7i1s1q1s1q2s8q6sai2s1" ++
  "tai6tai6H7m1H6i2ser1s10i31s4q1n2fs1q1s5q1s1q5s1q2n8i3taH7Mas9M9H2i1s2q1n1eq1s4q2s2q1s3n2ta" ++
  "n2cs1q1s2q3s1q1s3q2i8H4n24q8s8q2s2i3H5tai3n3tan1em6H2l9i7p2bi2p3H8i8s3H1sdq1s7n4s1n6s1n2q1s2" ++
  "n1i5l2cm3fldm1l22m25s40p1l1p1l1p1l1p1l1p1l1p1l1p1l1p1l1p1l1p1l1p1l1p1l1p1l1p1l1p1l1p1l1p1l1" ++
  "p1l1p1l1p1l1p1l1p1l1p1l1p1l1p1l1p1l1p1l1p1l1p1l1p1l1p1l1p1l1p1l1p1l1p1l1p1l1p1l1p1l1p1l1p1l1" ++
  "p1l1p1l1p1l1p1l1p1l1p1l1p1l1p1l1p1l1p1l1p1l1p1l1p1l1p1l1p1l1p1l1p1l1p1l1p1l1p1l1p1l1p1l1p1l1" ++
  "p1l1p1l1p1l1p1l1p1l1p1l1p1l1p1l1p1l1p1l1p1l1p1l9p1l1p1l1p1l1p1l1p1l1p1l1p1l1p1l1p1l1p1l1p1l1" ++
  "p1l1p1l1p1l1p1l1p1l1p1l1p1l1p1l1p1l1p1l1p1l1p1l1p1l1p1l1p1l1p1l1p1l1p1l1p1l1p1l1p1l1p1l1p1l1" ++
  "p1l1p1l1p1l1p1l1p1l1p1l1p1l1p1l1p1l1p1l1p1l1p1l1p1l1p1l1p1l9p8l6i2p6i2l8p8l8p8l6i2p6i2l8i1p1" ++
  "i1p1i1p1i1p1l8p8lei2l8o8l8o8l8o8l5i1l2p4o1K1l1K3l3i1l2p4o1K3l4i2l2p4i1K3l8p5K3i2l3i1l2p4o1K2" ++
  "i1Pbh5x6H2G1z1I1G2z1I1G1H8N1O1h5P1H9G1z1H4w2H3L1I1y1HbL1H1w1HaP1h5i1hav1m1i2v6L3I1y1m1vaL3I1" ++
  "y1i1mdi3J21ifsdr4s1r3scifM2p1M4p1M2l1p3l2p3l1M1p1M2L1p5M6p1M1p1M1p1M1p4M1l1p4l1n4l1M2l2p2L5" ++
  "p1l4M1L1M2l1M1v10u23p1l1u4v1M2i4L5M5L2M4L1M2L1M2L1M7L1M1fL2M2L1M1L1M1fL10cM8I1y1I1y1M14L2M7" ++
  "I1y1M51L1M1eL19M28L6M45i19Mbi15v3cM4ev16Mb7L1M9L1M36L8M6fL1Mf8I1y1I1y1I1y1I1y1I1y1I1y1I1y1" ++
  "v1eM2cL5I1y1L1fI1y1I1y1I1y1I1y1I1y1L10M100L83I1y1I1y1I1y1I1y1I1y1I1y1I1y1I1y1I1y1I1y1I1y1L3f" ++
  "I1y1I1y1L20I1y1L102M30L15M2L6M27i2M20i1M69p30l30p1l1p3l2p1l1p1l1p1l1p4l1p1l2p1l6m2p3l1p1l1p1" ++
  "l1p1l1p1l1p1l1p1l1p1l1p1l1p1l1p1l1p1l1p1l1p1l1p1l1p1l1p1l1p1l1p1l1p1l1p1l1p1l1p1l1p1l1p1l1p1" ++
  "l1p1l1p1l1p1l1p1l1p1l1p1l1p1l1p1l1p1l1p1l1p1l1p1l1p1l1p1l1p1l1p1l1p1l1p1l1p1l1p1l1p1l1p1l1p1" ++
  "l1p1l2M6p1l1p1l1s3p1l1i5H4v1H2l26i1l1i5l1i2n38i7m1H1ies1n17i9n7i1n7i1n7i1n7i1n7i1n7i1n7i1n7" ++
  "i1s20H2G1z1G1z1H3G1z1H1G1z1H9x1H2x1H1G1z1H2G1z1I1y1I1y1I1y1I1y1H5m1Hax2H4x1H1I1HdM2H3I1y1I1" ++
  "y1I1y1I1y1x1i22M1ai1M59icMd6i1aMci4P1H3M1m1n1u1I1y1I1y1I1y1I1y1I1y1M2I1y1I1y1I1y1I1y1x1I1y2" ++
  "M1u9s4q2x1m5M2u3m1n1H1M2i1n56i2s2K2m2n1x1n5aH1m3n1i5n2bi1n5ei1M2v4Man20M24icn10M1fi1vaM1ev8" ++
  "M1vfM20vaM27vfM140n19c0M40n5215m1n477i3M37i9n28m6H2n10cm1H3n10tan2i14p1l1p1l1p1l1p1l1p1l1p1" ++
  "l1p1l1p1l1p1l1p1l1p1l1p1l1p1l1p1l1p1l1p1l1p1l1p1l1p1l1p1l1p1l1p1l1p1l1n1s1r3H1saH1m1p1l1p1l1" ++
  "p1l1p1l1p1l1p1l1p1l1p1l1p1l1p1l1p1l1p1l1p1l1p1l1m2s2n46uas2H6i8K17m9K2p1l1p1l1p1l1p1l1p1l1p1" ++
  "l1p1l3p1l1p1l1p1l1p1l1p1l1p1l1p1l1p1l1p1l1p1l1p1l1p1l1p1l1p1l1p1l1p1l1p1l1p1l1p1l1p1l1p1l1p1" ++
  "l1p1l1p1l1p1l1p1l1p1l1p1l1p1l1p1l1p1l1m1l8p1l1p1l1p2l1p1l1p1l1p1l1p1l1m1K2p1l1p1l1n1p1l1p1l3" ++
  "p1l1p1l1p1l1p1l1p1l1p1l1p1l1p1l1p1l1p1l1p5l1p5l1p1l1p1l1p1l1p1l1p1l1p1l1p1l1p4l1p1l1i5p1l1i1" ++
  "l1i1l1p1l1p1l1i18m3p1l1n1m2l1n7s1n3s1n4s1n17q2s2q1M4s1i3v6M2J1M1i6n34H4i8q2n32q10s2i8H2tai6" ++
  "s12n6H3n1H1n2s1tan1cs8H2n17sbq2ibH1n1di3s3q1n2fs1q2s4q2s2q3Hdi1m1tai4H2n5s1m1n9tan5i1n29s6q2" ++
  "s2q2s2i9n3s1n8s1q1i2tai2H4n10m1n6M3n1q1s1q1n32s1n1s3n2s2n5s2n1s1n1i18n2m1H2nbq1s2q2H2n1m2q1" ++
  "s1ian6i2n6i2n6i9n7i1n7i1l2bK1m4l9m1K2i4l50n23q2s1q2s1q2H1q1s1i2tai6n2ba4icn17i4n31i4k800" ++
  "j1900n16ei2n6ai26l7icl5i5n1s1naL1ndi1n5i1n1i1n2i1n2i1n6cK11i10n16by1I1M10n40i2n36i7M1i20ncJ1" ++
  "M3s10H7I1y1H1i6s10H1x2w2I1y1I1y1I1y1I1y1I1y1I1y1I1y1I1y1H2I1y1H4w3H3i1H4x1I1y1I1y1I1y1H3L1x1" ++
  "L3i1H1J1H2i4n5i1n87i2h1i1H3J1H3I1y1H1L1H1x1H2taH2L3H2p1aI1H1y1K1w1K1l1aI1L1y1L1I1y1H1I1y1H2" ++
  "nam1n2dm2n1fi3n6i2n6i2n6i2n3i3J2L1K1M1J2i1M1L4M2iah3M2i2nci1n1ai1n13i1n2i1nfi2nei22n7bi5H3i4" ++
  "v2di3M9u35v4M11v2M3i1Mdi3M1i2fM2ds1i82n1di3n31ifs1v1bi4n20v4i9n14u1n8u1i5n26s5i5n1ei1H1n24i4" ++
  "n8H1u5i2ap28l28n4ei2tai6p24i4l24i4n28i8n34ibH1pbi1pfi1p7i1p2i1lbi1lfi1l7i1l2i43n137i9n16ian8" ++
  "i18m6i1m2ai1m9i45n6i2n1i1n2ci1n2i3n1i2n17i1H1v8n17M2v7n1fi8v9i30n13i1n2i5v5n16v6i3H1n1ai5H1" ++
  "i40n38i4v2n2v10i2v2en1s3i1s2i5s4n4i1n3i1n1di2s3i4s1v9i7H9i7n1dv2H1n1dv3i20n8M1n1cs2i4v5H7i9" ++
  "n36i3H7n16i2v8n13i5v8n12i7H4icv7i50n49i37p33idl33i7v6n24s4i8tai126v1fi1n2ai1s2x1i2n2i4bs3n1d" ++
  "van1i8n16sbv4H5i16n12s4H4i26n15v7i14n17i9q1s1q1n35sfH7i4v14tas1n2s2n1i9s3q1n2dq3s4q2s2H2h1H4" ++
  "s1iah1i2n19i7tai6s3n24s5q1s8i1taH4n1q2n1i8n23s1H2n1i9s2q1n30q3s9q2n4H4s4H1q1s1tan1H1n1H3i1" ++
  "v14ibn12i1n19q3s3q2s1q1s2H6s1n2s1i3en7i1n1i1n4i1nfi1naH1i6n2fs1q3s8i5tai6s2q2i1n8i2n2i2n16i1" ++
  "n7i1n2i1n5i1s2n1q2s1q4i2q2i2q3i2n1i6q1i5n5q2i2s7i3s5i8bn35q3s8q2s3q1s1n4H5taH2i1H1s1n3i1en30" ++
  "q3s6q1s1q4s2q1s2n2H1n1i8taia6n2fq3s4i2q4s2q1s2H17n4s2i22n30q3s8q2s1q1s2H3n1ibtai6Hdi13n2bs1" ++
  "q1s1q2s6q1s1n1H1i6tai36n1bi2s3q2s4q1s5i4tav2H3M1n7ib9n2cq3s9q1s2H1i64p20l20tav9icn8i2n1i2n8" ++
  "i1n2i1n18q6i1q2i2s2q1s1n1q1n1q1s1H3i9tai46n8i2n27q3s4i2s2q4s1n1H1n1q1i1bn1san28s6q1n1s4H8s1" ++
  "i8n1s6q2s3n2esdq1s2H3n1H5idn49i7Haif6n9i1n25q1s7i1s6q1s1n1H5iatav13i3H2n1ei2s16i1q1s7q1s2q1" ++
  "s2i49n7i1n2i1n26s6i3s1i1s2i1s7n1s1i8tai6n6i1n2i1n20q5i1s2i1q2s1q1s1n1i7tai136n13s2q2H2i7s2n1" ++
  "q1ndi1n22q2s5i3q2s1q1s1Hdtai56n1ifv15M8J4M11idH1n39ai66u6fi1H5ibnc4ia4cn61H2idn430h10s1n6sf" ++
  "ifaan247i21b9n239i7n1fi1tai4H2n4fi1tai6n1ei2s5H1ian30s7H5M4m4H1M1iatai1v7i1n15i5n13i2b0p20" ++
  "l20v17H4i65n4bi4s1n1q37i7s4mdi40m2H1m1s1ibq2ien17f8i8n4d6i2an9i22e7m4i1m7i1m2i1n123ifn1i1dn3" ++
  "i2n1ien4i8n18ci904n6bi5ndi3n9i7nai2M1s2H1h4i125cs2ei2s17i9M74i3cMf6iaM27i2M3cq2s3M3q6h8s8M2" ++
  "s7M1es4M3di15M42s3M1i7av14icv14icM57i9v19i87p1al1ap1al7i1l12p1al1ap1i1p2i2p1i2p2i2p4i1p8l4i1" ++
  "l1i1l7i1lbp1al1ap2i1p4i2p8i1p7i1l1ap2i1p4i1p5i1p1i3p7i1l1ap1al1ap1al1ap1al1ap1al1ap1al1ap1a" ++
  "l1ci2p19L1l19L1l6p19L1l19L1l6p19L1l19L1l6p19L1l19L1l6p19L1l19L1l6p1l1i2t32M200s37M4s32M8s1Me" ++
  "s1M2H5ifs5i1sfi450lan1l14i6l6id5s7i1s11i2s7i1s2i1s5i5m3ei21s1i70n2di3s7m7i2tai4n1M1i140n1es1" ++
  "i11n2cs4tai5J1i1d0n1bm1s4tai2e6n7i1n4i1n2i1nfi1nc5i2v9s7i29p22l22s7m1i4tai4H2i311v3bM1v3J1v4" ++
  "i4cv2dM1vfic2n4i1n1bi1n2i1n1i2n1i1nai1n4i1n1i1n1i6n1i4n1i1n1i1n1i1n3i1n2i1n1i2n1i1n1i1n1i1n1" ++
  "i1n1i1n2i1n1i2n4i1n7i1n4i1n4i1n1i1nai1n11i5n3i1n5i1n11i34L2i10eM2ci4M64icMfi2Mfi1Mfi1M25iavd" ++
  "Ma1i38M1didM2ci4M9i7M2ieM6i9aMfbK5M2d8i4M11i3Mdi3M77i4M5fi6Mci4M1ifMci4M38i8Mai6M28i8M1ei2M2" ++
  "i4eM154icMei2Mdi3M9i7M2ei1M7i8Mei4M9i7M9i7M93i1M37i25tai406na6e0i20n103ai6ndei2n1682ien1d31" ++
  "ic1fn21ei5e2n134bi5n1060iadc51h1i1eh60i80sf0ife10jfffei2jfffei2i0"

/-- The partition into categories. -/
def categoryPartition : Partition := Partition.ofText 1 categoryRuns

/-- The short name of each category by its letter. -/
def categoryShort (letter : String) : String := ((categories.lookup letter).map Prod.fst).getD "Cn"

/-- The short name of the category of a code point. -/
def categoryOf (n : Nat) : String := categoryShort (categoryPartition.value n)

end Assay.Unicode
