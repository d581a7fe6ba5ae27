import MarkdownOutline.Text.CharRef.Upper

namespace MarkdownOutline.Text.CharRef

def lowerANames : NameTable :=
  [("aacute", "á"), ("aacute;", "á"), ("abreve;", "ă"), ("ac;", "∾"), ("acE;", "∾\u0333"),
   ("acd;", "∿"), ("acirc", "â"), ("acirc;", "â"), ("acute", "´"), ("acute;", "´"),
   ("acy;", "а"), ("aelig", "æ"), ("aelig;", "æ"), ("af;", "\u2061"), ("afr;", "𝔞"),
   ("agrave", "à"), ("agrave;", "à"), ("alefsym;", "ℵ"), ("aleph;", "ℵ"), ("alpha;", "α"),
   ("amacr;", "ā"), ("amalg;", "⨿"), ("amp", "&"), ("amp;", "&"), ("and;", "∧"),
   ("andand;", "⩕"), ("andd;", "⩜"), ("andslope;", "⩘"), ("andv;", "⩚"), ("ang;", "∠"),
   ("ange;", "⦤"), ("angle;", "∠"), ("angmsd;", "∡"), ("angmsdaa;", "⦨"), ("angmsdab;", "⦩"),
   ("angmsdac;", "⦪"), ("angmsdad;", "⦫"), ("angmsdae;", "⦬"), ("angmsdaf;", "⦭"),
   ("angmsdag;", "⦮"), ("angmsdah;", "⦯"), ("angrt;", "∟"), ("angrtvb;", "⊾"),
   ("angrtvbd;", "⦝"), ("angsph;", "∢"), ("angst;", "Å"), ("angzarr;", "⍼"), ("aogon;", "ą"),
   ("aopf;", "𝕒"), ("ap;", "≈"), ("apE;", "⩰"), ("apacir;", "⩯"), ("ape;", "≊"), ("apid;", "≋"),
   ("apos;", "'"), ("approx;", "≈"), ("approxeq;", "≊"), ("aring", "å"), ("aring;", "å"),
   ("ascr;", "𝒶"), ("ast;", "*"), ("asymp;", "≈"), ("asympeq;", "≍"), ("atilde", "ã"),
   ("atilde;", "ã"), ("auml", "ä"), ("auml;", "ä"), ("awconint;", "∳"), ("awint;", "⨑")]

def lowerBNames : NameTable :=
  [("bNot;", "⫭"), ("backcong;", "≌"), ("backepsilon;", "϶"), ("backprime;", "‵"),
   ("backsim;", "∽"), ("backsimeq;", "⋍"), ("barvee;", "⊽"), ("barwed;", "⌅"),
   ("barwedge;", "⌅"), ("bbrk;", "⎵"), ("bbrktbrk;", "⎶"), ("bcong;", "≌"), ("bcy;", "б"),
   ("bdquo;", "„"), ("becaus;", "∵"), ("because;", "∵"), ("bemptyv;", "⦰"), ("bepsi;", "϶"),
   ("bernou;", "ℬ"), ("beta;", "β"), ("beth;", "ℶ"), ("between;", "≬"), ("bfr;", "𝔟"),
   ("bigcap;", "⋂"), ("bigcirc;", "◯"), ("bigcup;", "⋃"), ("bigodot;", "⨀"), ("bigoplus;", "⨁"),
   ("bigotimes;", "⨂"), ("bigsqcup;", "⨆"), ("bigstar;", "★"), ("bigtriangledown;", "▽"),
   ("bigtriangleup;", "△"), ("biguplus;", "⨄"), ("bigvee;", "⋁"), ("bigwedge;", "⋀"),
   ("bkarow;", "⤍"), ("blacklozenge;", "⧫"), ("blacksquare;", "▪"), ("blacktriangle;", "▴"),
   ("blacktriangledown;", "▾"), ("blacktriangleleft;", "◂"), ("blacktriangleright;", "▸"),
   ("blank;", "␣"), ("blk12;", "▒"), ("blk14;", "░"), ("blk34;", "▓"), ("block;", "█"),
   ("bne;", "=\u20e5"), ("bnequiv;", "≡\u20e5"), ("bnot;", "⌐"), ("bopf;", "𝕓"), ("bot;", "⊥"),
   ("bottom;", "⊥"), ("bowtie;", "⋈"), ("boxDL;", "╗"), ("boxDR;", "╔"), ("boxDl;", "╖"),
   ("boxDr;", "╓"), ("boxH;", "═"), ("boxHD;", "╦"), ("boxHU;", "╩"), ("boxHd;", "╤"),
   ("boxHu;", "╧"), ("boxUL;", "╝"), ("boxUR;", "╚"), ("boxUl;", "╜"), ("boxUr;", "╙"),
   ("boxV;", "║"), ("boxVH;", "╬"), ("boxVL;", "╣"), ("boxVR;", "╠"), ("boxVh;", "╫"),
   ("boxVl;", "╢"), ("boxVr;", "╟"), ("boxbox;", "⧉"), ("boxdL;", "╕"), ("boxdR;", "╒"),
   ("boxdl;", "┐"), ("boxdr;", "┌"), ("boxh;", "─"), ("boxhD;", "╥"), ("boxhU;", "╨"),
   ("boxhd;", "┬"), ("boxhu;", "┴"), ("boxminus;", "⊟"), ("boxplus;", "⊞"), ("boxtimes;", "⊠"),
   ("boxuL;", "╛"), ("boxuR;", "╘"), ("boxul;", "┘"), ("boxur;", "└"), ("boxv;", "│"),
   ("boxvH;", "╪"), ("boxvL;", "╡"), ("boxvR;", "╞"), ("boxvh;", "┼"), ("boxvl;", "┤"),
   ("boxvr;", "├"), ("bprime;", "‵"), ("breve;", "˘"), ("brvbar", "¦"), ("brvbar;", "¦"),
   ("bscr;", "𝒷"), ("bsemi;", "⁏"), ("bsim;", "∽"), ("bsime;", "⋍"), ("bsol;", "\\"),
   ("bsolb;", "⧅"), ("bsolhsub;", "⟈"), ("bull;", "•"), ("bullet;", "•"), ("bump;", "≎"),
   ("bumpE;", "⪮"), ("bumpe;", "≏"), ("bumpeq;", "≏")]

def lowerCNames : NameTable :=
  [("cacute;", "ć"), ("cap;", "∩"), ("capand;", "⩄"), ("capbrcup;", "⩉"), ("capcap;", "⩋"),
   ("capcup;", "⩇"), ("capdot;", "⩀"), ("caps;", "∩\ufe00"), ("caret;", "⁁"), ("caron;", "ˇ"),
   ("ccaps;", "⩍"), ("ccaron;", "č"), ("ccedil", "ç"), ("ccedil;", "ç"), ("ccirc;", "ĉ"),
   ("ccups;", "⩌"), ("ccupssm;", "⩐"), ("cdot;", "ċ"), ("cedil", "¸"), ("cedil;", "¸"),
   ("cemptyv;", "⦲"), ("cent", "¢"), ("cent;", "¢"), ("centerdot;", "·"), ("cfr;", "𝔠"),
   ("chcy;", "ч"), ("check;", "✓"), ("checkmark;", "✓"), ("chi;", "χ"), ("cir;", "○"),
   ("cirE;", "⧃"), ("circ;", "ˆ"), ("circeq;", "≗"), ("circlearrowleft;", "↺"),
   ("circlearrowright;", "↻"), ("circledR;", "®"), ("circledS;", "Ⓢ"), ("circledast;", "⊛"),
   ("circledcirc;", "⊚"), ("circleddash;", "⊝"), ("cire;", "≗"), ("cirfnint;", "⨐"),
   ("cirmid;", "⫯"), ("cirscir;", "⧂"), ("clubs;", "♣"), ("clubsuit;", "♣"), ("colon;", ":"),
   ("colone;", "≔"), ("coloneq;", "≔"), ("comma;", ","), ("commat;", "@"), ("comp;", "∁"),
   ("compfn;", "∘"), ("complement;", "∁"), ("complexes;", "ℂ"), ("cong;", "≅"),
   ("congdot;", "⩭"), ("conint;", "∮"), ("copf;", "𝕔"), ("coprod;", "∐"), ("copy", "©"),
   ("copy;", "©"), ("copysr;", "℗"), ("crarr;", "↵"), ("cross;", "✗"), ("cscr;", "𝒸"),
   ("csub;", "⫏"), ("csube;", "⫑"), ("csup;", "⫐"), ("csupe;", "⫒"), ("ctdot;", "⋯"),
   ("cudarrl;", "⤸"), ("cudarrr;", "⤵"), ("cuepr;", "⋞"), ("cuesc;", "⋟"), ("cularr;", "↶"),
   ("cularrp;", "⤽"), ("cup;", "∪"), ("cupbrcap;", "⩈"), ("cupcap;", "⩆"), ("cupcup;", "⩊"),
   ("cupdot;", "⊍"), ("cupor;", "⩅"), ("cups;", "∪\ufe00"), ("curarr;", "↷"), ("curarrm;", "⤼"),
   ("curlyeqprec;", "⋞"), ("curlyeqsucc;", "⋟"), ("curlyvee;", "⋎"), ("curlywedge;", "⋏"),
   ("curren", "¤"), ("curren;", "¤"), ("curvearrowleft;", "↶"), ("curvearrowright;", "↷"),
   ("cuvee;", "⋎"), ("cuwed;", "⋏"), ("cwconint;", "∲"), ("cwint;", "∱"), ("cylcty;", "⌭")]

def lowerDNames : NameTable :=
  [("dArr;", "⇓"), ("dHar;", "⥥"), ("dagger;", "†"), ("daleth;", "ℸ"), ("darr;", "↓"),
   ("dash;", "‐"), ("dashv;", "⊣"), ("dbkarow;", "⤏"), ("dblac;", "˝"), ("dcaron;", "ď"),
   ("dcy;", "д"), ("dd;", "ⅆ"), ("ddagger;", "‡"), ("ddarr;", "⇊"), ("ddotseq;", "⩷"),
   ("deg", "°"), ("deg;", "°"), ("delta;", "δ"), ("demptyv;", "⦱"), ("dfisht;", "⥿"),
   ("dfr;", "𝔡"), ("dharl;", "⇃"), ("dharr;", "⇂"), ("diam;", "⋄"), ("diamond;", "⋄"),
   ("diamondsuit;", "♦"), ("diams;", "♦"), ("die;", "¨"), ("digamma;", "ϝ"), ("disin;", "⋲"),
   ("div;", "÷"), ("divide", "÷"), ("divide;", "÷"), ("divideontimes;", "⋇"), ("divonx;", "⋇"),
   ("djcy;", "ђ"), ("dlcorn;", "⌞"), ("dlcrop;", "⌍"), ("dollar;", "$"), ("dopf;", "𝕕"),
   ("dot;", "˙"), ("doteq;", "≐"), ("doteqdot;", "≑"), ("dotminus;", "∸"), ("dotplus;", "∔"),
   ("dotsquare;", "⊡"), ("doublebarwedge;", "⌆"), ("downarrow;", "↓"), ("downdownarrows;", "⇊"),
   ("downharpoonleft;", "⇃"), ("downharpoonright;", "⇂"), ("drbkarow;", "⤐"), ("drcorn;", "⌟"),
   ("drcrop;", "⌌"), ("dscr;", "𝒹"), ("dscy;", "ѕ"), ("dsol;", "⧶"), ("dstrok;", "đ"),
   ("dtdot;", "⋱"), ("dtri;", "▿"), ("dtrif;", "▾"), ("duarr;", "⇵"), ("duhar;", "⥯"),
   ("dwangle;", "⦦"), ("dzcy;", "џ"), ("dzigrarr;", "⟿")]

def lowerENames : NameTable :=
  [("eDDot;", "⩷"), ("eDot;", "≑"), ("eacute", "é"), ("eacute;", "é"), ("easter;", "⩮"),
   ("ecaron;", "ě"), ("ecir;", "≖"), ("ecirc", "ê"), ("ecirc;", "ê"), ("ecolon;", "≕"),
   ("ecy;", "э"), ("edot;", "ė"), ("ee;", "ⅇ"), ("efDot;", "≒"), ("efr;", "𝔢"), ("eg;", "⪚"),
   ("egrave", "è"), ("egrave;", "è"), ("egs;", "⪖"), ("egsdot;", "⪘"), ("el;", "⪙"),
   ("elinters;", "⏧"), ("ell;", "ℓ"), ("els;", "⪕"), ("elsdot;", "⪗"), ("emacr;", "ē"),
   ("empty;", "∅"), ("emptyset;", "∅"), ("emptyv;", "∅"), ("emsp13;", "\u2004"),
   ("emsp14;", "\u2005"), ("emsp;", "\u2003"), ("eng;", "ŋ"), ("ensp;", "\u2002"),
   ("eogon;", "ę"), ("eopf;", "𝕖"), ("epar;", "⋕"), ("eparsl;", "⧣"), ("eplus;", "⩱"),
   ("epsi;", "ε"), ("epsilon;", "ε"), ("epsiv;", "ϵ"), ("eqcirc;", "≖"), ("eqcolon;", "≕"),
   ("eqsim;", "≂"), ("eqslantgtr;", "⪖"), ("eqslantless;", "⪕"), ("equals;", "="),
   ("equest;", "≟"), ("equiv;", "≡"), ("equivDD;", "⩸"), ("eqvparsl;", "⧥"), ("erDot;", "≓"),
   ("erarr;", "⥱"), ("escr;", "ℯ"), ("esdot;", "≐"), ("esim;", "≂"), ("eta;", "η"),
   ("eth", "ð"), ("eth;", "ð"), ("euml", "ë"), ("euml;", "ë"), ("euro;", "€"), ("excl;", "!"),
   ("exist;", "∃"), ("expectation;", "ℰ"), ("exponentiale;", "ⅇ")]

def lowerFNames : NameTable :=
  [("fallingdotseq;", "≒"), ("fcy;", "ф"), ("female;", "♀"), ("ffilig;", "ﬃ"), ("fflig;", "ﬀ"),
   ("ffllig;", "ﬄ"), ("ffr;", "𝔣"), ("filig;", "ﬁ"), ("fjlig;", "fj"), ("flat;", "♭"),
   ("fllig;", "ﬂ"), ("fltns;", "▱"), ("fnof;", "ƒ"), ("fopf;", "𝕗"), ("forall;", "∀"),
   ("fork;", "⋔"), ("forkv;", "⫙"), ("fpartint;", "⨍"), ("frac12", "½"), ("frac12;", "½"),
   ("frac13;", "⅓"), ("frac14", "¼"), ("frac14;", "¼"), ("frac15;", "⅕"), ("frac16;", "⅙"),
   ("frac18;", "⅛"), ("frac23;", "⅔"), ("frac25;", "⅖"), ("frac34", "¾"), ("frac34;", "¾"),
   ("frac35;", "⅗"), ("frac38;", "⅜"), ("frac45;", "⅘"), ("frac56;", "⅚"), ("frac58;", "⅝"),
   ("frac78;", "⅞"), ("frasl;", "⁄"), ("frown;", "⌢"), ("fscr;", "𝒻")]

def lowerGNames : NameTable :=
  [("gE;", "≧"), ("gEl;", "⪌"), ("gacute;", "ǵ"), ("gamma;", "γ"), ("gammad;", "ϝ"),
   ("gap;", "⪆"), ("gbreve;", "ğ"), ("gcirc;", "ĝ"), ("gcy;", "г"), ("gdot;", "ġ"),
   ("ge;", "≥"), ("gel;", "⋛"), ("geq;", "≥"), ("geqq;", "≧"), ("geqslant;", "⩾"),
   ("ges;", "⩾"), ("gescc;", "⪩"), ("gesdot;", "⪀"), ("gesdoto;", "⪂"), ("gesdotol;", "⪄"),
   ("gesl;", "⋛\ufe00"), ("gesles;", "⪔"), ("gfr;", "𝔤"), ("gg;", "≫"), ("ggg;", "⋙"),
   ("gimel;", "ℷ"), ("gjcy;", "ѓ"), ("gl;", "≷"), ("glE;", "⪒"), ("gla;", "⪥"), ("glj;", "⪤"),
   ("gnE;", "≩"), ("gnap;", "⪊"), ("gnapprox;", "⪊"), ("gne;", "⪈"), ("gneq;", "⪈"),
   ("gneqq;", "≩"), ("gnsim;", "⋧"), ("gopf;", "𝕘"), ("grave;", "\x60"), ("gscr;", "ℊ"),
   ("gsim;", "≳"), ("gsime;", "⪎"), ("gsiml;", "⪐"), ("gt", ">"), ("gt;", ">"), ("gtcc;", "⪧"),
   ("gtcir;", "⩺"), ("gtdot;", "⋗"), ("gtlPar;", "⦕"), ("gtquest;", "⩼"), ("gtrapprox;", "⪆"),
   ("gtrarr;", "⥸"), ("gtrdot;", "⋗"), ("gtreqless;", "⋛"), ("gtreqqless;", "⪌"),
   ("gtrless;", "≷"), ("gtrsim;", "≳"), ("gvertneqq;", "≩\ufe00"), ("gvnE;", "≩\ufe00")]

def lowerHNames : NameTable :=
  [("hArr;", "⇔"), ("hairsp;", "\u200a"), ("half;", "½"), ("hamilt;", "ℋ"), ("hardcy;", "ъ"),
   ("harr;", "↔"), ("harrcir;", "⥈"), ("harrw;", "↭"), ("hbar;", "ℏ"), ("hcirc;", "ĥ"),
   ("hearts;", "♥"), ("heartsuit;", "♥"), ("hellip;", "…"), ("hercon;", "⊹"), ("hfr;", "𝔥"),
   ("hksearow;", "⤥"), ("hkswarow;", "⤦"), ("hoarr;", "⇿"), ("homtht;", "∻"),
   ("hookleftarrow;", "↩"), ("hookrightarrow;", "↪"), ("hopf;", "𝕙"), ("horbar;", "―"),
   ("hscr;", "𝒽"), ("hslash;", "ℏ"), ("hstrok;", "ħ"), ("hybull;", "⁃"), ("hyphen;", "‐")]

def lowerINames : NameTable :=
  [("iacute", "í"), ("iacute;", "í"), ("ic;", "\u2063"), ("icirc", "î"), ("icirc;", "î"),
   ("icy;", "и"), ("iecy;", "е"), ("iexcl", "¡"), ("iexcl;", "¡"), ("iff;", "⇔"), ("ifr;", "𝔦"),
   ("igrave", "ì"), ("igrave;", "ì"), ("ii;", "ⅈ"), ("iiiint;", "⨌"), ("iiint;", "∭"),
   ("iinfin;", "⧜"), ("iiota;", "℩"), ("ijlig;", "ĳ"), ("imacr;", "ī"), ("image;", "ℑ"),
   ("imagline;", "ℐ"), ("imagpart;", "ℑ"), ("imath;", "ı"), ("imof;", "⊷"), ("imped;", "Ƶ"),
   ("in;", "∈"), ("incare;", "℅"), ("infin;", "∞"), ("infintie;", "⧝"), ("inodot;", "ı"),
   ("int;", "∫"), ("intcal;", "⊺"), ("integers;", "ℤ"), ("intercal;", "⊺"), ("intlarhk;", "⨗"),
   ("intprod;", "⨼"), ("iocy;", "ё"), ("iogon;", "į"), ("iopf;", "𝕚"), ("iota;", "ι"),
   ("iprod;", "⨼"), ("iquest", "¿"), ("iquest;", "¿"), ("iscr;", "𝒾"), ("isin;", "∈"),
   ("isinE;", "⋹"), ("isindot;", "⋵"), ("isins;", "⋴"), ("isinsv;", "⋳"), ("isinv;", "∈"),
   ("it;", "\u2062"), ("itilde;", "ĩ"), ("iukcy;", "і"), ("iuml", "ï"), ("iuml;", "ï")]

def lowerJNames : NameTable :=
  [("jcirc;", "ĵ"), ("jcy;", "й"), ("jfr;", "𝔧"), ("jmath;", "ȷ"), ("jopf;", "𝕛"),
   ("jscr;", "𝒿"), ("jsercy;", "ј"), ("jukcy;", "є")]

def lowerKNames : NameTable :=
  [("kappa;", "κ"), ("kappav;", "ϰ"), ("kcedil;", "ķ"), ("kcy;", "к"), ("kfr;", "𝔨"),
   ("kgreen;", "ĸ"), ("khcy;", "х"), ("kjcy;", "ќ"), ("kopf;", "𝕜"), ("kscr;", "𝓀")]

def lowerLNames : NameTable :=
  [("lAarr;", "⇚"), ("lArr;", "⇐"), ("lAtail;", "⤛"), ("lBarr;", "⤎"), ("lE;", "≦"),
   ("lEg;", "⪋"), ("lHar;", "⥢"), ("lacute;", "ĺ"), ("laemptyv;", "⦴"), ("lagran;", "ℒ"),
   ("lambda;", "λ"), ("lang;", "⟨"), ("langd;", "⦑"), ("langle;", "⟨"), ("lap;", "⪅"),
   ("laquo", "«"), ("laquo;", "«"), ("larr;", "←"), ("larrb;", "⇤"), ("larrbfs;", "⤟"),
   ("larrfs;", "⤝"), ("larrhk;", "↩"), ("larrlp;", "↫"), ("larrpl;", "⤹"), ("larrsim;", "⥳"),
   ("larrtl;", "↢"), ("lat;", "⪫"), ("latail;", "⤙"), ("late;", "⪭"), ("lates;", "⪭\ufe00"),
   ("lbarr;", "⤌"), ("lbbrk;", "❲"), ("lbrace;", "\x7b"), ("lbrack;", "["), ("lbrke;", "⦋"),
   ("lbrksld;", "⦏"), ("lbrkslu;", "⦍"), ("lcaron;", "ľ"), ("lcedil;", "ļ"), ("lceil;", "⌈"),
   ("lcub;", "\x7b"), ("lcy;", "л"), ("ldca;", "⤶"), ("ldquo;", "“"), ("ldquor;", "„"),
   ("ldrdhar;", "⥧"), ("ldrushar;", "⥋"), ("ldsh;", "↲"), ("le;", "≤"), ("leftarrow;", "←"),
   ("leftarrowtail;", "↢"), ("leftharpoondown;", "↽"), ("leftharpoonup;", "↼"),
   ("leftleftarrows;", "⇇"), ("leftrightarrow;", "↔"), ("leftrightarrows;", "⇆"),
   ("leftrightharpoons;", "⇋"), ("leftrightsquigarrow;", "↭"), ("leftthreetimes;", "⋋"),
   ("leg;", "⋚"), ("leq;", "≤"), ("leqq;", "≦"), ("leqslant;", "⩽"), ("les;", "⩽"),
   ("lescc;", "⪨"), ("lesdot;", "⩿"), ("lesdoto;", "⪁"), ("lesdotor;", "⪃"),
   ("lesg;", "⋚\ufe00"), ("lesges;", "⪓"), ("lessapprox;", "⪅"), ("lessdot;", "⋖"),
   ("lesseqgtr;", "⋚"), ("lesseqqgtr;", "⪋"), ("lessgtr;", "≶"), ("lesssim;", "≲"),
   ("lfisht;", "⥼"), ("lfloor;", "⌊"), ("lfr;", "𝔩"), ("lg;", "≶"), ("lgE;", "⪑"),
   ("lhard;", "↽"), ("lharu;", "↼"), ("lharul;", "⥪"), ("lhblk;", "▄"), ("ljcy;", "љ"),
   ("ll;", "≪"), ("llarr;", "⇇"), ("llcorner;", "⌞"), ("llhard;", "⥫"), ("lltri;", "◺"),
   ("lmidot;", "ŀ"), ("lmoust;", "⎰"), ("lmoustache;", "⎰"), ("lnE;", "≨"), ("lnap;", "⪉"),
   ("lnapprox;", "⪉"), ("lne;", "⪇"), ("lneq;", "⪇"), ("lneqq;", "≨"), ("lnsim;", "⋦"),
   ("loang;", "⟬"), ("loarr;", "⇽"), ("lobrk;", "⟦"), ("longleftarrow;", "⟵"),
   ("longleftrightarrow;", "⟷"), ("longmapsto;", "⟼"), ("longrightarrow;", "⟶"),
   ("looparrowleft;", "↫"), ("looparrowright;", "↬"), ("lopar;", "⦅"), ("lopf;", "𝕝"),
   ("loplus;", "⨭"), ("lotimes;", "⨴"), ("lowast;", "∗"), ("lowbar;", "_"), ("loz;", "◊"),
   ("lozenge;", "◊"), ("lozf;", "⧫"), ("lpar;", "("), ("lparlt;", "⦓"), ("lrarr;", "⇆"),
   ("lrcorner;", "⌟"), ("lrhar;", "⇋"), ("lrhard;", "⥭"), ("lrm;", "\u200e"), ("lrtri;", "⊿"),
   ("lsaquo;", "‹"), ("lscr;", "𝓁"), ("lsh;", "↰"), ("lsim;", "≲"), ("lsime;", "⪍"),
   ("lsimg;", "⪏"), ("lsqb;", "["), ("lsquo;", "‘"), ("lsquor;", "‚"), ("lstrok;", "ł"),
   ("lt", "<"), ("lt;", "<"), ("ltcc;", "⪦"), ("ltcir;", "⩹"), ("ltdot;", "⋖"),
   ("lthree;", "⋋"), ("ltimes;", "⋉"), ("ltlarr;", "⥶"), ("ltquest;", "⩻"), ("ltrPar;", "⦖"),
   ("ltri;", "◃"), ("ltrie;", "⊴"), ("ltrif;", "◂"), ("lurdshar;", "⥊"), ("luruhar;", "⥦"),
   ("lvertneqq;", "≨\ufe00"), ("lvnE;", "≨\ufe00")]

end MarkdownOutline.Text.CharRef
