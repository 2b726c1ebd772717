/-!
# Names of characters: scripts of the past and of few

A table in the short form that `Text.Name` reads.  Data of the Unicode character database, version
14.
-/

namespace DenseSketch.Text.Name

/-- The names from U+10000 to U+1CFFF. -/
def ancient : List String :=
  [
    "@10000 0:LINEAR B iu B008 A;3:B038 E;3:B028 I;3:B061 O;3:B010 U;3:B001 DA;3:B045 DE;3:B007 DI",
    "3:B014 DO;3:B051 DU;3:B057 JA;3:B046 JE;@1000D 3:B036 JO;3:B065 JU;3:B077 KA;3:B044 KE",
    "3:B067 KI;3:B070 KO;3:B081 KU;3:B080 MA;3:B013 ME;3:B073 MI;3:B015 MO;3:B023 MU;3:B006 NA",
    "3:B024 NE;3:B030 NI;3:B052 NO;3:B055 NU;3:B003 PA;3:B072 PE;3:B039 PI;3:B011 PO;3:B050 PU",
    "3:B016 QA;3:B078 QE;3:B021 QI;3:B032 QO;@10028 3:B060 RA;3:B027 RE;3:B053 RI;3:B002 RO",
    "3:B026 RU;3:B031 SA;3:B009 SE;3:B041 SI;3:B012 SO;3:B058 SU;3:B059 TA;3:B004 TE;3:B037 TI",
    "3:B005 TO;3:B069 TU;3:B054 WA;3:B075 WE;3:B040 WI;3:B042 WO;@1003C 3:B017 ZA;3:B074 ZE",
    "@1003F 3:B020 ZO;3:B025 A2;3:B043 A3;3:B085 AU;3:B071 DWE;3:B090 DWO;3:B048 NWA;3:B029 PU2",
    "3:B062 PTE;3:B076 RA2;3:B033 RA3;3:B068 RO2;3:B066 TA2;3:B087 TWE;3:B091 co;@10050 2:au B018",
    "+;B022;B034;B047;B049;B056;B063;+;B079;B082;+;B086;B089;@10080 2:ym B100 MAN;3:B102 WOMAN",
    "3:B104 DEER;3:B105 EQUID;3:B105F MARE;3:B105M STALLION;3:B106F EWE;3:B106M RAM",
    "3:B107F SHE-GOAT;3:B107M HE-GOAT;3:B108F SOW;3:B108M BOAR;3:B109F COW;3:B109M BULL",
    "3:B120 WHEAT;3:B121 BARLEY;3:B122 OLIVE;3:B123 SPICE;3:B125 CYPERUS;2:ur B127 KAPO",
    "3:B128 KANAKO;2:ym B130 OIL;3:B131 WINE;3:B132;2:ur B133 AREPA;3:B135 MERI;2:ym B140 BRONZE",
    "3:B141 GOLD;3:B142;B145 WOOL;3:B146;B150;B151 le;3:B152;+2;2:ur B156 TURO2;2:ym B157;+",
    "B159 CLOTH;3:B160;+;B162 GARMENT;3:B163 ARMOUR;3:B164;+5;B170;+2;B173 MONTH;3:B174;B176 TREE",
    "3:B177;+2;B180;+5;B189;B190;B191 HELMET;3:B220 FOOTSTOOL;3:B225 BATHTUB;3:B230 SPEAR",
    "3:B231 ae;3:B232;B233 SWORD;3:B234;B236;B240 WHEELED CHARIOT;3:B241 CHARIOT",
    "3:B242 CHARIOT FRAME;3:B243 WHEEL;3:B245;+;2:ur B247 DIPTE;2:ym B248;+;B251;+2;B254 DART",
    "3:B255;+4;VESSEL B155;B200;+9;B210;+9;B221;+;B226;+3;B250;B305;@10100 0:AEGEAN zt fh gw;cy",
    "1:ua bj;@10107 1:dq cs;co;aw;bt;by;fx;bv;br;dm;jx;fm;jk;od;im;ou;ff;mm;gb;cs az;2:co az",
    "2:aw az;2:bt az;2:by az;2:fx az;2:bv az;2:br az;2:dm az;2:cs ba;2:co ba;2:aw ba;2:bt ba",
    "2:by ba;2:fx ba;2:bv ba;2:br ba;2:dm ba;2:jx ba;2:fm ba;2:jk ba;2:od ba;2:im ba;2:ou ba",
    "2:ff ba;2:mm ba;2:gb ba;@10137 1:WEIGHT BASE UNIT;2:FIRST tf;2:SECOND tf;2:tm tf;2:FOURTH tf",
    "1:DRY yu FIRST tf;1:LIQUID yu FIRST tf;1:yu SECOND tf;2:tm tf;0:kn ACROPHONIC ATTIC cs fk;dg",
    "DRACHMA;3:by;im;by az;ba;3:im ba;3:by vt;3:jx vt;3:im vt;3:cs az vt;3:by az vt;3:cs ba vt",
    "3:by ba vt;4:te;3:jx te;3:im te;3:cs az te;3:by az te;3:cs ba te;3:jx ba te;3:im ba te",
    "3:jx MNAS;2:HERAEUM cs PLETHRON;2:vg cs;2:HERMIONIAN cs;2:EPIDAUREAN co;2:vg co",
    "2:CYRENAIC co DRACHMAS;2:EPIDAUREAN co DRACHMAS;2:TROEZENIAN by;jx;4:fp af;2:HERMIONIAN jx",
    "2:MESSENIAN jx;2:vg jx;jk;2:TROEZENIAN im;4:fp af;2:HERMIONIAN im;2:vg im;cs az;3:aw az",
    "2:EPIDAUREAN by az;2:TROEZENIAN by az;2:vg by az;2:CARYSTIAN by az;2:NAXIAN by az;2:vg cs ba",
    "3:by ba;2:DELPHIC by MNAS;2:STRATIAN im MNAS;1:cs dg ak;4:fp af;1:co vh ak;1:aw ji ak",
    "1:YEAR ak;1:TALENT ak;1:DRACHMA ak;1:OBOL ak;1:co OBOLS ak;1:aw OBOLS ak;1:bt OBOLS ak",
    "1:by OBOLS ak;1:METRETES ak;1:KYATHOS BASE ak;1:LITRA ak;1:OUNKIA ak;1:XESTES ak;1:ARTABE ak",
    "1:AROURA ak;1:GRAMMA ak;1:TRYBLION BASE ak;1:ex ak;1:cs fk ak;1:SINUSOID ak;1:INDICTION ak",
    "0:NOMISMA ak;@10190 0:ROMAN SEXTANS ak;1:UNCIA ak;1:SEMUNCIA ak;1:SEXTULA ak",
    "1:DIMIDIA SEXTULA ak;1:SILIQUA ak;1:DENARIUS ak;1:QUINARIUS ak;1:SESTERTIUS ak;1:DUPONDIUS ak",
    "1:AS ak;1:CENTURIAL ak;0:ASCIA au;@101A0 0:kn au TAU RHO;@101D0 0:PHAISTOS DISC ak PEDESTRIAN",
    "PLUMED tq;3:TATTOOED tq;3:CAPTIVE;CHILD;WOMAN;HELMET;GAUNTLET;TIARA;ae;BOW;SHIELD;CLUB",
    "MANACLES;MATTOCK;SAW;LID;BOOMERANG;CARPENTRY PLANE;3:DOLIUM;COMB;SLING;COLUMN;BEEHIVE;SHIP;le",
    "HIDE;BULLS LEG;3:CAT;RAM;EAGLE;DOVE;TUNNY;BEE;PLANE TREE;3:VINE;PAPYRUS;ROSETTE;LILY;OX BACK",
    "3:FLUTE;GRATER;STRAINER;ad AXE;3:WAVY BAND;3:dj kr at;@10280 0:LYCIAN aa A;E;B;BH;G;D;I;W;Z",
    "TH;J;+;Q;L;+2;MM;NN;U;P;KK;R;+2;TT;AN;EN;H;X;@102A0 0:CARIAN aa A;P2;D;L;UUU;R;LD;A2;Q;B;M;O",
    "D2;T;SH;SH2;S;C-18;U;NN;X;N;TT2;P;SS;I;E;UUUU;K;K2;ND;UU;G;G2;ST;ST2;NG;II;C-39;TT;UUU2;RR;MB",
    "MB2;+2;LD2;E2;UUU3;@102E0 0:ij EPACT nn bj;2:cr cs;co;aw;bt;by;fx;bv;br;dm;2:dq jx;fm;jk;od",
    "im;ou;ff;mm;gb;cs az;3:co az;3:aw az;3:bt az;3:by az;3:fx az;3:bv az;3:br az;3:dm az",
    "@10300 0:oh rj aa A;BE;KE;DE;E;VE;ZE;HE;ts;I;KA;EL;+2;ESH;O;PE;vy;KU;ER;+;TE;U;EKS;PHE;KHE;EF",
    "ERS;CHE;II;UU;ESS;2:pb cs;by;jx;im;@1032D 2:aa YE;NORTHERN TSE;3:SOUTHERN TSE",
    "0:GOTHIC aa AHSA;BAIRKAN;GIBA;DAGS;AIHVUS;QAIRTHRA;IUJA;HAGL;THIUTH;EIS;KUSMA;LAGUS;MANNA",
    "NAUTHS;JER;URUS;PAIRTHRA;gb;RAIDA;SAUIL;TEIWS;WINJA;FAIHU;IGGWS;HWAIR;OTHAL;dm az",
    "@10350 0:oh PERMIC aa AN;BUR;GAI;DOI;E;ZHOI;DZHOI;ZATA;DZITA;I;KOKE;LEI;MENOE;NENOE;VOOI;PEEI",
    "REI;SII;TAI;U;CHERY;SHOOI;SHCHOOI;YRY;YERU;O;OO;EF;HA;TSIU;VER;YER;YERI;YAT;IE;YU;YA;IA",
    "0:dj oh PERMIC aa AN;DOI;ZATA;NENOE;SII;@10380 0:UGARITIC aa ALPA;to;GAMLA;lo;mk;HO;WO;ZETA",
    "HOTA;TET;YOD;yp;mw;ry;MEM;DHAL;qr;ZU;SAMKA;vz;PU;SADE;QOPA;RASHA;THANNA;ot;TO;I;U;SSU",
    "@1039F 1:zt yd;0:oh PERSIAN ak A;I;U;KA;KU;GA;GU;XA;CA;JA;JI;TA;TU;DA;DI;DU;mh;PA;BA;FA;NA;NU",
    "MA;MI;MU;YA;VA;VI;RA;RU;LA;SA;ZA;kt;td;HA;@103C8 AURAMAZDAA;AURAMAZDAA-2;AURAMAZDAAHA",
    "XSHAAYATHIYA;DAHYAAUSH;DAHYAAUSH-2;BAGA;BUUMISH;2:zt yd;2:dq cs;co;jx;fm;az",
    "@10400 0:DESERET ac aa fl I;E;A;AH;O;OO;3:fu I;E;A;AH;O;OO;3:AY;OW;WU;YEE;H;PEE;BEE;TEE;DEE",
    "CHEE;JEE;KAY;GAY;EF;VEE;ETH;THEE;ES;ZEE;ESH;ZHEE;ER;EL;+2;ENG;OI;EW;1:ad aa fl I;E;A;AH;O;OO",
    "3:fu I;E;A;AH;O;OO;3:AY;OW;WU;YEE;H;PEE;BEE;TEE;DEE;CHEE;JEE;KAY;GAY;EF;VEE;ETH;THEE;ES;ZEE",
    "ESH;ZHEE;ER;EL;+2;ENG;OI;EW;0:SHAVIAN aa PEEP;TOT;KICK;FEE;THIGH;SO;SURE;CHURCH;YEA;HUNG;BIB",
    "DEAD;GAG;VOW;THEY;ZOO;yu;JUDGE;WOE;HA-HA;LOLL;MIME;IF;EGG;qt;ADO;ON;WOOL;OUT;AH;ROAR;qr;EAT",
    "AGE;ICE;UP;OAK;OOZE;OIL;AWE;ARE;OR;AIR;ERR;ARRAY;EAR;IAN;YEW;0:OSMANYA aa ec;BA;TA;JA;XA;lo",
    "DEEL;RA;SA;SHIIN;po;CAYN;GA;FA;QAAF;KAAF;LAAN;MIIN;NUUN;tt;HA;YA;A;E;I;O;U;AA;EE;OO",
    "@104A0 1:cr ex;cs;co;aw;bt;by;fx;bv;br;dm;@104B0 0:OSAGE ac aa A;AI;vz;AH;BRA;lg;EHCHA;E;EIN",
    "HA;HYA;I;KA;EHKA;KYA;LA;MA;NA;O;OIN;PA;EHPA;SA;kt;TA;EHTA;zo;EHTSA;zp;po;U;WA;lo;qq;ZA;ZHA",
    "@104D8 1:ad aa A;AI;vz;AH;BRA;lg;EHCHA;E;EIN;HA;HYA;I;KA;EHKA;KYA;LA;MA;NA;O;OIN;PA;EHPA;SA",
    "kt;TA;EHTA;zo;EHTSA;zp;po;U;WA;lo;qq;ZA;ZHA;@10500 0:ELBASAN aa A;BE;CE;CHE;DE;NDE;DHE;EI;E",
    "FE;GE;GJE;HE;I;JE;KE;LE;LLE;ME;NE;NA;NJE;O;PE;QE;RE;RRE;SE;vy;TE;ts;U;VE;XE;Y;ZE;ZHE;GHE",
    "GHAMMA;KHE;@10530 0:CAUCASIAN ALBANIAN aa ALT;BET;GIM;DAT;EB;ZARL;EYN;ZHIL;TAS;lg;YOWD;ZHA",
    "IRB;kt;LAN;INYA;XEYN;DYAN;CAR;JHOX;KAR;LYIT;HEYT;QAY;AOR;CHOY;CHI;CYAY;MAQ;QAR;NOWC;DZYAY",
    "SHAK;JAYN;ON;TYAY;FAM;DZAY;CHAT;PEN;GHEYS;RAT;SEYK;VEYZ;TIWR;SHOY;IWN;CYAW;CAYN;YAYD;PIWR;KIW",
    "@1056F 2:CITATION bj;0:VITHKUQI ac aa A;BBE;BE;CE;CHE;DE;DHE;EI;E;FE;GA;@1057C HA;HHA;I;IJE",
    "JE;KA;LA;LLA;ME;NE;NJE;O;PE;QA;RE;@1058C SE;vy;TE;ts;U;VE;XE;@10594 Y;ZE;@10597 1:ad aa A;BBE",
    "BE;CE;CHE;DE;DHE;EI;E;FE;GA;@105A3 HA;HHA;I;IJE;JE;KA;LA;LLA;ME;NE;NJE;O;PE;QA;RE;@105B3 SE",
    "vy;TE;ts;U;VE;XE;@105BB Y;ZE;@10600 0:LINEAR A ak AB001;+8;AB010;+;AB013;AB016;+;AB020;+",
    "AB021F;AB021M;AB022;AB022F;AB022M;AB023;AB023M;AB024;AB026;+2;A028B;AB029;AB030;+;AB034;AB037",
    "+2;AB040;+;AB044;+5;AB050;+;AB053;+6;AB060;+;AB065;+2;AB069;AB070;AB073;+;AB076;+3;AB080;+2",
    "AB085;+2;A100-102;AB118;AB120;A120B;AB122;+;AB131A;+;A131C;AB164;AB171;AB180;AB188;AB191;A301",
    "+7;A309A;+2;A310;+2;A313A;+2;A314;+5;A320;+9;A330;+9;A340;+9;A350;+9;A360;+9;A370;+;A400-VAS",
    "A401-VAS;A402-VAS;A403-VAS;A404-VAS;A405-VAS;A406-VAS;A407-VAS;A408-VAS;A409-VAS;A410-VAS",
    "A411-VAS;A412-VAS;A413-VAS;A414-VAS;A415-VAS;A416-VAS;A417-VAS;A418-VAS;A501;+5;A508;+;A510",
    "+3;A515;+;A520;+;A523;+6;A530;+2;A534;+5;A540;+2;A545;A547;+2;A550;+7;A559;A563;+3;A568;+",
    "A570;+9;A580;+9;A591;+;A594;+2;A598;A600;+4;A606;A608;+;A610;+9;A620;+4;A626;+3;A634;A637;+",
    "A640;A642;+4;A648;+;A651;+8;A660;+4;@10740 A701 A;3:A702 B;3:A703 D;3:A704 E;3:A705 F",
    "3:A706 H;3:A707 J;3:A708 K;3:A709 L;3:A709-2 L2;3:A709-3 L3;3:A709-4 L4;3:A709-6 L6;3:A710 W",
    "3:A711 X;3:A712 Y;3:A713 hs;3:A714 ABB;3:A715 BB;3:A717 DD;3:A726 EYYY;3:A732 JE",
    "@10760 3:A800;+7;@10780 0:ev aa ad ac AA;2:hm ez iw;3:dg ez iw;2:ad AE;ac B;3:B ab bw",
    "@10787 3:DZ gm;5:ab cx bw;6:rf;3:DEZH gm;3:D ab hw;bw;6:bi hw;3:bq E;3:gl bq fg E;3:FENG gm",
    "3:RAMS le;3:ac G;3:G ab bw;3:ac G ab bw;3:H ab at;3:ac H;3:HENG ab bw;3:la J ab at bi bw",
    "3:LS gm;3:LZ gm;3:L ab BELT;3:ac L ab BELT;3:L ab cx bw bi BELT;3:LEZH;4:ab cx bw;3:ch Y",
    "5:ab BELT;3:O ab at;3:ac OE;3:gl hs;3:Q;ch R ab fl LEG;8:bi cx bw;3:R ab hw;ru;3:ac R",
    "3:TC gm ab rf;3:TS gm;5:ab cx bw;3:TESH gm;3:T ab cx bw;3:V ab ai bw;@107B2 3:ac Y",
    "2:go ge ab at;2:bq go ge ab at;2:BILABIAL wa;2:DENTAL wa;2:LATERAL wa;2:ALVEOLAR wa",
    "2:cx wa ab cx bw;2:ad S ab rf;@10800 0:CYPRIOT iu A;E;I;O;U;JA;@10808 JO;@1080A KA;KE;KI;KO",
    "KU;LA;LE;LI;LO;LU;MA;ME;MI;MO;MU;NA;NE;NI;NO;NU;PA;PE;PI;PO;PU;RA;RE;RI;RO;RU;SA;SE;SI;SO;SU",
    "TA;TE;TI;TO;TU;WA;WE;WI;WO;@10837 XA;XE;@1083C ZA;@1083F ZO;0:IMPERIAL ARAMAIC aa os;vv;pw;so",
    "HE;tt;sg;yk;TETH;zu;ws;mo;MEM;qr;lz;AYIN;PE;rc;QOPH;RESH;mw;TAW;@10857 2:hi ak;2:dq cs;co;aw",
    "jx;fm;cs az;ba;3:jx ba;0:PALMYRENE aa os;vv;pw;so;HE;tt;sg;yk;TETH;zu;ws;mo;MEM;ar qr;2:qr;lz",
    "AYIN;PE;rc;QOPH;RESH;mw;TAW;1:eb FLEURON;1:da FLEURON;1:dq cs;co;aw;bt;by;jx;fm",
    "0:NABATAEAN aa ar os;2:os;ar vv;2:vv;pw;so;ar HE;2:HE;tt;sg;yk;TETH;ar zu;2:zu;ar ws;2:ws",
    "ar mo;2:mo;ar MEM;2:MEM;ar qr;2:qr;lz;AYIN;PE;rc;QOPH;RESH;ar mw;2:mw;TAW;@108A7 1:dq cs;co",
    "aw;bt;1:CRUCIFORM dq bt;1:dq by;jx;fm;cs az;@108E0 0:HATRAN aa os;vv;pw;DALETH-RESH;HE;tt",
    "ZAYN;yk;TETH;zu;ws;mo;MEM;qr;lz;AYN;PE;rc;QOPH;@108F4 mw;TAW;@108FB 1:dq cs;by;jx;fm;cs az",
    "0:PHOENICIAN aa ALF;BET;GAML;DELT;HE;WAU;ZAI;HET;TET;YOD;yp;LAMD;MEM;qr;SEMK;vz;PE;SADE;QOF",
    "ROSH;mw;TAU;1:dq cs;jx;fm;cs az;2:co;aw;@1091F 1:zt fh;0:LYDIAN aa A;+;G;D;+;V;I;Y;K;+4;R;SS",
    "T;+;F;Q;S;TT;AN;EN;LY;NN;C;@1093F 1:ez bj;@10980 0:MEROITIC HIEROGLYPHIC aa A;E;I;O;YA;WA;BA",
    "BA-2;PA;MA;NA;NA-2;NE;NE-2;RA;RA-2;LA;lo;HHA;SA;SA-2;SE;KA;QA;TA;TA-2;TE;TE-2;TO;DA;2:au VIDJ",
    "VIDJ-2;1:CURSIVE aa A;E;I;O;YA;WA;BA;PA;MA;NA;NE;RA;LA;lo;HHA;SA;iv SA;3:SE;KA;QA;TA;TE;TO;DA",
    "@109BC 2:hq pr my;3:cs dg;2:yt RMT;IMN;2:dq cs;co;aw;bt;by;fx;bv;br;dm;jx;fm;jk;od;im;ou;ff",
    "@109D2 cs az;3:co az;3:aw az;3:bt az;3:by az;3:fx az;3:bv az;3:br az;3:dm az;3:cs ba;3:co ba",
    "3:aw ba;3:bt ba;3:by ba;3:fx ba;3:bv ba;3:br ba;3:dm ba;3:jx ba;3:fm ba;3:jk ba;3:od ba",
    "3:im ba;3:ou ba;3:ff ba;3:mm ba;3:gb ba;3:cs az ba;3:co az ba;3:aw az ba;3:bt az ba",
    "3:by az ba;3:fx az ba;3:bv az ba;3:br az ba;3:dm az ba;2:hq cs TWELFTH;3:co my;3:aw my",
    "3:bt my;3:by my;3:fx my;3:bv my;3:br my;3:dm my;3:jx my;0:KHAROSHTHI aa A;1:cm ak I;U;cw R",
    "@10A05 3:E;O;@10A0C 2:mp bj;1:ak al ei aq;2:ct;ew;1:aa KA;lo;GA;qq;@10A15 CA;lg;JA;@10A19 lj",
    "pf;jv;ph;ka;qz;TA;mh;DA;po;NA;PA;nx;BA;re;MA;YA;RA;LA;VA;kt;td;SA;ZA;HA;KKA;TTTHA;TTTA;VHA",
    "@10A38 1:ak gf aj;2:CAUDA;cy aq;@10A3F 1:fn;cr cs;co;aw;bt;1:dq jx;fm;cs az;ba;1:hq cs dg",
    "@10A50 1:cc cy;ad bo;2:bo;ub gf;2:MANGALAM;LOTUS;jc;al jc;2:LINES",
    "@10A60 0:oh gz ARABIAN aa HE;mo;yk;MEM;QOPH;tt;mw;RESH;vv;TAW;SAT;ws;qr;KHETH;rc;lz;FE;ec;AYN",
    "DHADHE;pw;so;GHAYN;TETH;ZAYN;DHALETH;zu;THAW;THETH;3:dq cs;im;3:NUMERIC nj;1:gi ARABIAN aa zw",
    "tu;iz;cv;QAF;tt;ES-2;xo;BEH;TEH;ES-1;yp;ke;ia;SAD;ES-3;FEH;ec;vz;DAD;GEEM;DAL;ot;TAH;zv;THAL",
    "hl;THEH;ZAH;3:dq cs;jx;fm;@10AC0 0:MANICHAEAN aa os;vv;BHETH;pw;GHIMEL;so;HE;tt;1:ak UD",
    "1:aa sg;ZHAYIN;JAYIN;JHAYIN;yk;TETH;zu;ws;XAPH;KHAPH;mo;DHAMEDH;THAMEDH;MEM;qr;lz;AYIN;AAYIN",
    "PE;FE;rc;QOPH;XOPH;QHOPH;RESH;mw;SSHIN;TAW;1:eu bj aj;aq;@10AEB 1:dq cs;by;jx;fm;cs az",
    "1:cc hk;FLEURON;al cy WITHIN cy;2:cy WITHIN cy;2:cy;co du;2:gw uf;@10B00 0:AVESTAN aa A;AA;AO",
    "AAO;AN;AAN;AE;AEE;E;EE;O;OO;I;II;U;UU;KE;XE;XYE;XVE;GE;GGE;GHE;CE;JE;TE;ts;DE;DHE;TTE;PE;FE",
    "BE;BHE;NGE;NGYE;NGVE;NE;NYE;NNE;ME;HME;YYE;YE;VE;RE;LE;SE;ZE;vy;ZHE;SHYE;SSHE;HE",
    "@10B39 1:eu bj;0:TINY co du dy cs cy cc;0:ad co du dy cs cy cc;0:ee co du dy cs cy cc",
    "1:cs cy dy co du cc;1:co RINGS dy cs ei cc;1:cs ei dy co RINGS cc",
    "0:INSCRIPTIONAL PARTHIAN aa os;vv;pw;so;HE;tt;sg;yk;TETH;zu;ws;mo;MEM;qr;lz;AYIN;PE;rc;QOPH",
    "RESH;mw;TAW;@10B58 2:dq cs;co;aw;bt;jx;fm;cs az;ba;1:PAHLAVI aa os;vv;pw;so;HE;WAW-AYIN-RESH",
    "sg;yk;TETH;zu;ws;mo;MEM-QOPH;qr;lz;PE;rc;mw;TAW;@10B78 2:dq cs;co;aw;bt;jx;fm;cs az;ba",
    "0:PSALTER PAHLAVI aa os;vv;pw;so;HE;WAW-AYIN-RESH;sg;yk;zu;ws;mo;MEM-QOPH;qr;lz;PE;rc;mw;TAW",
    "@10B99 2:hi bj;2:ch hi bj;2:bt du ab gr;cy;@10BA9 2:dq cs;co;aw;bt;jx;fm;cs az",
    "@10C00 0:oh TURKIC aa hn A;3:gq A;AE;3:hn I;3:gq I;E;3:hn O;OE;3:gq OE;3:hn AB;3:gq AB",
    "3:hn AEB;3:gq AEB;3:hn AG;3:gq AG;3:hn AEG;3:gq AEG;3:hn AD;3:gq AD;3:hn AED;EZ;3:gq EZ",
    "3:hn AY;3:gq AY;3:hn AEY;3:gq AEY;3:hn AEK;3:gq AEK;3:hn OEK;3:gq OEK;3:hn AL;3:gq AL",
    "3:hn AEL;ELT;EM;AN;AEN;3:gq AEN;3:hn ENT;3:gq ENT;3:hn ENC;3:gq ENC;3:hn ENY;3:gq ENY;ANG",
    "3:hn ENG;3:gq AENG;3:hn EP;OP;IC;EC;3:gq EC;3:hn AQ;3:gq AQ;3:hn IQ;3:gq IQ;3:hn OQ;3:gq OQ",
    "3:hn AR;3:gq AR;3:hn AER;AS;AES;qt;3:gq qt;3:hn ESH;3:gq ESH;3:hn AT;3:gq AT;3:hn AET",
    "3:gq AET;3:hn OT;BASH;@10C80 1:HUNGARIAN ac aa A;AA;EB;AMB;EC;ENC;ECS;ED;bi;E;CLOSE E;4:EE;+2",
    "EGY;EH;I;II;EJ;+;AK;UNK;EL;ELY;EM;+;ENY;O;OO;wz OE;4:RUDIMENTA OE;4:OEE;EP;EMP;ER;fu ER;4:ES",
    "ESZ;ET;ENT;ETY;ECH;U;UU;wz UE;4:RUDIMENTA UE;4:EV;EZ;EZS;ENT-SHAPED ak;4:US;@10CC0 2:ad aa A",
    "AA;EB;AMB;EC;ENC;ECS;ED;bi;E;CLOSE E;4:EE;+2;EGY;EH;I;II;EJ;+;AK;UNK;EL;ELY;EM;+;ENY;O;OO",
    "wz OE;4:RUDIMENTA OE;4:OEE;EP;EMP;ER;fu ER;4:ES;ESZ;ET;ENT;ETY;ECH;U;UU;wz UE;4:RUDIMENTA UE",
    "4:EV;EZ;EZS;ENT-SHAPED ak;4:US;@10CFA 2:dq cs;by;jx;im;cs az;ba;0:HANIFI ROHINGYA aa A;BA;PA",
    "TA;pf;JA;CA;HA;lo;FA;DA;ph;RA;RRA;ZA;SA;kt;KA;GA;LA;MA;NA;WA;KINNA WA;3:YA;KINNA YA;3:kp;lj",
    "VA;2:cm A;I;U;E;O;2:bj SAKIN;NA KHONNA;2:ak HARBAHAY;TAHALA;TANA;TASSI;@10D30 2:cr ex;cs;co",
    "aw;bt;by;fx;bv;br;dm;@10E60 0:RUMI cr cs;co;aw;bt;by;fx;bv;br;dm;1:dq jx;fm;jk;od;im;ou;ff;mm",
    "gb;cs az;2:co az;2:aw az;2:bt az;2:by az;2:fx az;2:bv az;2:br az;2:dm az;1:hq cs dg;fk;tm",
    "2:co vh;@10E80 0:YEZIDI aa ELIF;BE;PE;PHE;ts;SE;CIM;CHIM;CHHIM;HHA;XA;DAL;ZAL;RA;RHA;ZA;JA",
    "SIN;mw;SAD;DAD;TA;ZE;EYN;XHEYN;FA;VA;3:fp af;2:QAF;yp;KHAF;GAF;tu;MIM;qr;UM;tt;OW;EW;HAY;YOT",
    "ET;@10EAB 1:dj hz bj;2:MADDA bj;1:HYPHENATION bj;@10EB0 1:aa tu ab cy aj;2:YOT ab be aj",
    "@10F00 0:oh SOGDIAN aa os;ar os;3:vv;ar vv;3:pw;HE;ar HE;3:tt;sg;yk;zu;ws;mo;MEM;qr;ar qr",
    "5:ab an hw;3:lz;AYIN;fp AYIN;3:PE;rc;ar rc;5:ab an hw;3:RESH-AYIN-DALETH;mw;TAW;ar TAW",
    "5:ab an hw;2:dq cs;co;aw;bt;by;jx;fm;jk;cs az;2:hq cs dg;2:em AYIN-DALETH",
    "@10F30 0:SOGDIAN aa os;vv;pw;HE;tt;sg;yk;zu;ws;mo;MEM;qr;lz;AYIN;PE;rc;RESH-AYIN;mw;TAW;FETH",
    "LESH;1:kw mw;1:dj cy aq;2:co du aq;2:cy aj;2:co du aj;2:nz aj;aq;2:bw aj;aq;2:fl bw aq",
    "2:RESH aq;2:at aq;1:dq cs;jx;fm;cs az;1:cc co an BARS;5:ab du;2:bo ab cy;2:co lm ab du",
    "2:dg bo ab cy;@10F70 0:oh UYGHUR aa os;vv;GIMEL-HETH;tt;sg;ar yk;3:zu;ws;mo;MEM;qr;lz;PE;rc",
    "RESH;mw;TAW;LESH;2:dj cy aj;aq;3:co du aj;aq;2:cc gf;co BARS;du;3:bt du",
    "@10FB0 0:CHORASMIAN aa os;ad os;2:vv;pw;so;HE;tt;CURLED tt;2:sg;yk;zu;ws;mo;MEM;qr;lz;AYIN;PE",
    "RESH;mw;TAW;1:dq cs;co;aw;bt;jx;fm;cs az;@10FE0 0:ELYMAIC aa os;vv;pw;so;HE;tt;sg;yk;TETH;zu",
    "ws;mo;MEM;qr;lz;AYIN;PE;rc;QOPH;RESH;mw;TAW;1:em ZAYIN-YODH;@11000 0:BRAHMI ak df;ct;ew;oe;om",
    "1:aa A;AA;I;II;U;UU;cw R;RR;L;LL;2:E;AI;O;AU;KA;lo;GA;qq;kp;CA;lg;JA;ul;lj;pf;jv;ph;ka;qz;TA",
    "mh;DA;po;NA;PA;nx;BA;re;MA;YA;RA;LA;VA;kt;td;SA;HA;LLA;oh TAMIL LLLA;RRA;NNNA;1:cm ak AA",
    "BHATTIPROLU AA;3:I;II;U;UU;cw R;RR;L;LL;3:E;AI;O;AU;1:fn;jc;al jc;1:cc cy;al cy;2:gw;ub gf",
    "2:LOTUS;@11052 1:dq cs;co;aw;bt;by;fx;bv;br;dm;jx;fm;jk;od;im;ou;ff;mm;gb;cs az;ba;1:cr ex;cs",
    "co;aw;bt;by;fx;bv;br;dm;1:ak oh TAMIL fn;1:aa oh TAMIL fu E;O;1:cm ak oh TAMIL fu E;O",
    "1:aa oh TAMIL LLA;@1107F 1:dq JOINER;0:KAITHI ak df;ct;ew;1:aa A;AA;I;II;U;UU;E;AI;O;AU;KA;lo",
    "GA;qq;kp;CA;lg;JA;ul;lj;pf;jv;ph;DDDHA;ka;RHA;qz;TA;mh;DA;po;NA;PA;nx;BA;re;MA;YA;RA;LA;VA;kt",
    "td;SA;HA;1:cm ak AA;I;II;U;UU;E;AI;O;AU;1:ak fn;kq;1:eu ak;1:ENUMERATION ak;1:dq ak;1:hi bj",
    "1:al hi bj;1:jc;al jc;1:cm ak cw R;@110CD 1:dq ak aj;@110D0 0:SORA SOMPENG aa SAH;TAH;BAH;CAH",
    "DAH;GAH;MAH;NGAH;LAH;NAH;VAH;PAH;YAH;RAH;iz;KAH;JAH;NYAH;AH;EEH;IH;UH;OH;EH;MAE",
    "@110F0 2:cr ex;cs;co;aw;bt;by;fx;bv;br;dm;@11100 0:CHAKMA ak df;ct;ew;1:aa AA;I;U;E;KAA;KHAA",
    "GAA;GHAA;NGAA;CAA;CHAA;JAA;JHAA;NYAA;TTAA;TTHAA;DDAA;DDHAA;NNAA;TAA;THAA;DAA;DHAA;NAA;PAA",
    "PHAA;BAA;BHAA;MAA;YYAA;YAA;RAA;LAA;WAA;SAA;HAA;1:cm ak A;I;II;U;UU;E;AI;O;AU;OI;1:O bj",
    "1:AU bj;1:fn;MAAYYAA;@11136 cr ex;cs;co;aw;bt;by;fx;bv;br;dm;1:hi bj;1:jc;al jc;1:fc bj",
    "1:aa LHAA;1:cm ak AA;EI;1:aa VAA;@11150 0:MAHAJANI aa A;I;U;E;O;KA;lo;GA;qq;CA;lg;JA;ul;lj;pf",
    "jv;ph;ka;qz;TA;mh;DA;po;NA;PA;nx;BA;re;MA;RA;LA;VA;SA;HA;RRA;1:ak kq;1:eu ak;1:hi bj",
    "1:em SHRI;@11180 0:SHARADA ak df;ct;ew;1:aa A;AA;I;II;U;UU;cw R;RR;L;LL;2:E;AI;O;AU;KA;lo;GA",
    "qq;kp;CA;lg;JA;ul;lj;pf;jv;ph;ka;qz;TA;mh;DA;po;NA;PA;nx;BA;re;MA;YA;RA;LA;LLA;VA;kt;td;SA;HA",
    "1:cm ak AA;I;II;U;UU;cw R;RR;L;LL;3:E;AI;O;AU;1:ak fn;io;oe;om;1:OM;jc;al jc;1:eu ak;1:fh",
    "SANDHI bj;1:ak kq;1:cm ev bj;1:EXTRA fu cm bj;1:SUTRA bj;1:cm ak wf E;1:ak ca df;1:cr ex;cs",
    "co;aw;bt;by;fx;bv;br;dm;1:EKAM;ak vq;1:HEADSTROKE;CONTINUATION ak;1:hi MARK-1;+",
    "@111E1 0:SINHALA iv cr cs;co;aw;bt;by;fx;bv;br;dm;2:dq jx;fm;jk;od;im;ou;ff;mm;gb;cs az;ba",
    "@11200 0:KHOJKI aa A;AA;I;U;E;AI;O;AU;KA;lo;GA;GGA;qq;kp;CA;lg;JA;JJA;@11213 lj;pf;jv;ph;ka",
    "qz;TA;mh;DA;DDDA;po;NA;PA;nx;BA;BBA;re;MA;YA;RA;LA;VA;SA;HA;LLA;1:cm ak AA;I;II;U;E;AI;O;AU",
    "1:ak ct;fn;kq;SHADDA;1:jc;al jc;1:zt fh;1:hi bj;1:al hi bj;1:eu ak;1:ak SUKUN",
    "@11280 0:MULTANI aa A;I;U;E;KA;lo;GA;@11288 qq;@1128A CA;lg;JA;JJA;@1128F lj;pf;jv;ph;DDDA;ka",
    "qz;TA;mh;DA;po;NA;PA;nx;BA;@1129F re;MA;YA;RA;LA;VA;SA;HA;RRA;RHA;1:hi bj",
    "@112B0 0:KHUDAWADI aa A;AA;I;II;U;UU;E;AI;O;AU;KA;lo;GA;GGA;qq;kp;CA;lg;JA;JJA;ul;lj;pf;jv;ph",
    "DDDA;RRA;ka;qz;TA;mh;DA;po;NA;PA;nx;BA;BBA;re;MA;YA;RA;LA;VA;kt;SA;HA;1:ak ct;1:cm ak AA;I;II",
    "U;UU;E;AI;O;AU;1:ak kq;fn;@112F0 1:cr ex;cs;co;aw;bt;by;fx;bv;br;dm",
    "@11300 0:GRANTHA ak dj ct aj;2:df;ct;ew;@11305 1:aa A;AA;I;II;U;UU;cw R;L;@1130F 2:EE;AI",
    "@11313 OO;AU;KA;lo;GA;qq;kp;CA;lg;JA;ul;lj;pf;jv;ph;ka;qz;TA;mh;DA;po;NA;@1132A PA;nx;BA;re",
    "MA;YA;RA;@11332 LA;LLA;@11335 VA;kt;td;SA;HA;@1133B 0:dj BINDU aq;0:GRANTHA ak kq;io",
    "1:cm ak AA;I;II;U;UU;cw R;RR;@11347 3:EE;AI;@1134B OO;AU;1:ak fn;@11350 1:OM;@11357 AU mp bj",
    "@1135D 1:ak PLUTA;1:aa VEDIC ct;al ct;2:cw RR;LL;1:cm ak cw L;LL;@11366 0:dj GRANTHA cr ex;cs",
    "co;aw;bt;by;fx;@11370 2:aa A;KA;NA;VI;PA;@11400 0:NEWA aa A;AA;I;II;U;UU;cw R;RR;L;LL;2:E;AI",
    "O;AU;KA;lo;GA;qq;kp;NGHA;CA;lg;JA;ul;lj;NYHA;pf;jv;ph;ka;qz;TA;mh;DA;po;NA;NHA;PA;nx;BA;re;MA",
    "MHA;YA;RA;RHA;LA;LHA;WA;kt;td;SA;HA;1:cm ak AA;I;II;U;UU;cw R;RR;L;LL;3:E;AI;O;AU;1:ak fn;df",
    "ct;ew;kq;io;ar ct;1:OM;SIDDHI;jc;al jc;1:et;GAP uf;1:eu ak;1:cr ex;cs;co;aw;bt;by;fx;bv;br;dm",
    "1:al et;1:PLACEHOLDER bj;@1145D 1:INSERTION ak;1:SANDHI bj;1:aa VEDIC ct;1:ak oe;om",
    "@11480 0:TIRHUTA ANJI;aa A;AA;I;II;U;UU;cw R;RR;L;LL;2:E;AI;O;AU;KA;lo;GA;qq;kp;CA;lg;JA;ul",
    "lj;pf;jv;ph;ka;qz;TA;mh;DA;po;NA;PA;nx;BA;re;MA;YA;RA;LA;VA;kt;td;SA;HA;1:cm ak AA;I;II;U;UU",
    "cw R;RR;L;LL;3:E;fu E;3:AI;O;fu O;3:AU;1:ak df;ct;ew;fn;kq;io;1:GVANG;eu ak;1:OM;@114D0 cr ex",
    "cs;co;aw;bt;by;fx;bv;br;dm;@11580 0:vq aa A;AA;I;II;U;UU;cw R;RR;L;LL;2:E;AI;O;AU;KA;lo;GA;qq",
    "kp;CA;lg;JA;ul;lj;pf;jv;ph;ka;qz;TA;mh;DA;po;NA;PA;nx;BA;re;MA;YA;RA;LA;VA;kt;td;SA;HA",
    "1:cm ak AA;I;II;U;UU;cw R;RR;@115B8 3:E;AI;O;AU;1:ak df;ct;ew;fn;kq;vq;1:jc;al jc;1:fh cy;gf",
    "1:REPETITION MARK-1;+2;1:yf OF TEXT bj;1:hi bj ab TRIDENT bi zq ORNAMENTS;6:fy ng",
    "4:RAYS bi fy ng;al ng;7:es ng;3:al ei;5:ab RAYS;3:ab al ng;4:es ng;4:kj ng;4:SEPTUPLE ng",
    "4:lm bi RAYS;co ENCLOSURES;6:bt ENCLOSURES;1:aa THREE-CIRCLE fp I;2:TWO-CIRCLE fp I;II;2:fp U",
    "1:cm ak fp U;UU;@11600 0:MODI aa A;AA;I;II;U;UU;cw R;RR;L;LL;2:E;AI;O;AU;KA;lo;GA;qq;kp;CA;lg",
    "JA;ul;lj;pf;jv;ph;ka;qz;TA;mh;DA;po;NA;PA;nx;BA;re;MA;YA;RA;LA;VA;kt;td;SA;HA;LLA;1:cm ak AA",
    "I;II;U;UU;cw R;RR;L;LL;3:E;AI;O;AU;1:ak ct;ew;fn;ARDHACANDRA;1:jc;al jc;1:eu ak;1:ak HUVA",
    "@11650 1:cr ex;cs;co;aw;bt;by;fx;bv;br;dm;@11660 0:MONGOLIAN xs ab cn;1:cp xs;1:al xs ab cn",
    "1:es xs ab cn;1:xs ab al cn;1:cp xs ab cn;al cn;1:ca xs;3:ab al cn;1:SWIRL xs;3:ab cn;al cn",
    "1:ch SWIRL xs ab al cn;@11680 0:TAKRI aa A;AA;I;II;U;UU;E;AI;O;AU;KA;lo;GA;qq;kp;CA;lg;JA;ul",
    "lj;pf;jv;ph;ka;qz;TA;mh;DA;po;NA;PA;nx;BA;re;MA;YA;RA;LA;VA;kt;SA;HA;RRA;1:ak ct;ew",
    "1:cm ak AA;I;II;U;UU;E;AI;O;AU;1:ak fn;kq;1:aa iv lo;1:eu ak;@116C0 1:cr ex;cs;co;aw;bt;by;fx",
    "bv;br;dm;@11700 0:AHOM aa KA;lo;kp;NA;TA;fp TA;2:PA;nx;BA;MA;JA;lg;mh;RA;LA;SA;lj;HA;A;DA;po",
    "GA;fp GA;2:qq;re;ul;fp BA;@1171D 1:fq ak cf LA;RA;LIGATING RA;1:cm ak A;AA;I;II;U;UU;E;AW;O",
    "AI;AM;1:ak KILLER;@11730 1:cr ex;cs;co;aw;bt;by;fx;bv;br;dm;1:dq jx;fm;1:ak ad hi;2:hi;RULAI",
    "1:au VI;1:aa CA;pf;jv;ph;ka;qz;LLA;@11800 0:DOGRA aa A;AA;I;II;U;UU;E;AI;O;AU;KA;lo;GA;qq;kp",
    "CA;lg;JA;ul;lj;pf;jv;ph;ka;qz;TA;mh;DA;po;NA;PA;nx;BA;re;MA;YA;RA;LA;VA;kt;td;SA;HA;RRA",
    "1:cm ak AA;I;II;U;UU;cw R;RR;3:E;AI;O;AU;1:ak ct;ew;fn;kq;1:eu ak",
    "@118A0 0:WARANG CITI ac aa NGAA;A;WI;YU;YA;YO;II;UU;E;O;ANG;GA;KO;ENY;YUJ;UC;ENN;ODD;TTE;NUNG",
    "DA;AT;AM;BU;PU;HIYO;HOLO;HORR;HAR;SSUU;SII;VIYO;2:ad aa NGAA;A;WI;YU;YA;YO;II;UU;E;O;ANG;GA",
    "KO;ENY;YUJ;UC;ENN;ODD;TTE;NUNG;DA;AT;AM;BU;PU;HIYO;HOLO;HORR;HAR;SSUU;SII;VIYO;2:cr ex;cs;co",
    "aw;bt;by;fx;bv;br;dm;2:dq jx;fm;jk;od;im;ou;ff;mm;gb;@118FF 2:OM;0:DIVES AKURU aa A;AA;I;II;U",
    "UU;E;@11909 O;@1190C KA;lo;GA;qq;kp;CA;lg;JA;@11915 lj;pf;@11918 ph;ka;qz;TA;mh;DA;po;NA;PA",
    "nx;BA;re;MA;YA;YYA;RA;LA;VA;kt;td;SA;HA;LLA;ZA;2:cm ak AA;I;II;U;UU;E;@11937 AI;O",
    "@1193B 2:ak ct;df;HALANTA;2:fn;PREFIXED NASAL ak;2:cf YA;2:ap RA;2:cf RA;2:ak kq;2:al jc",
    "2:GAP uf;2:yf OF TEXT bj;@11950 2:cr ex;cs;co;aw;bt;by;fx;bv;br;dm;@119A0 0:NANDINAGARI aa A",
    "AA;I;II;U;UU;cw R;RR;@119AA 2:E;AI;O;AU;KA;lo;GA;qq;kp;CA;lg;JA;ul;lj;pf;jv;ph;ka;qz;TA;mh;DA",
    "po;NA;PA;nx;BA;re;MA;YA;RA;LA;VA;kt;td;SA;HA;LLA;RRA;1:cm ak AA;I;II;U;UU;cw R;RR;@119DA 3:E",
    "AI;O;AU;1:ak ct;ew;fn;io;vq;1:HEADSTROKE;cm ak wf E;@11A00 0:ZANABAZAR bn aa A;2:cm ak I;UE;U",
    "E;OE;O;AI;AU;bq I;3:mp bj;2:aa KA;lo;GA;qq;kp;CA;lg;JA;lj;pf;jv;ph;ka;qz;TA;mh;DA;po;NA;PA;nx",
    "BA;re;MA;zo;zp;DZA;DZHA;ZHA;ZA;-A;YA;RA;LA;VA;kt;td;SA;HA;KSSA;2:ar fq bj;2:ak fn;df;4:ab cn",
    "3:mj ab cn;3:ct;ew;2:CLUSTER-INITIAL aa RA;2:CLUSTER-FINAL aa YA;RA;LA;VA;2:ap tq bj",
    "2:CLOSING tq bj;2:bj wk;xf;al xf;3:fl wk;2:ap DOUBLE-LINED tq bj;2:CLOSING DOUBLE-LINED tq bj",
    "2:SUBJOINER;@11A50 0:SOYOMBO aa A;1:cm ak I;UE;U;E;O;OE;AI;AU;cw R;L;2:mp bj;1:aa KA;lo;GA;qq",
    "kp;CA;lg;JA;ul;lj;pf;jv;ph;ka;qz;TA;mh;DA;po;NA;PA;nx;BA;re;MA;zo;zp;DZA;ZHA;ZA;-A;YA;RA;LA",
    "VA;kt;td;SA;HA;KSSA;1:ak oe;om;1:CLUSTER-INITIAL aa RA;LA;kt;SA;1:ar fq ak G;K;NG;D;N;B;M;R;L",
    "SH;S;-A;1:ak ct;ew;1:sp bj;1:SUBJOINER;bj wk;xf;al xf;2:PLUTA",
    "1:tq bj ab oo bi SUN bi es FLAME;8:FLAME;6:SUN;1:TERMINAL MARK-1;+",
    "@11AB0 0:CANADIAN SYLLABICS NATTILIK HI;HII;HO;HOO;HA;HAA;SHRI;SHRII;SHRO;SHROO;SHRA;SHRAA",
    "2:SPE;SPI;SPO;SPA;0:PAU CIN HAU aa PA;KA;LA;MA;DA;ZA;VA;kp;HA;GA;lo;SA;BA;CA;TA;mh;NA;nx;RA",
    "FA;lg;A;E;I;O;U;UA;IA;ar P;K;T;M;+;L;W;NG;Y;3:op fi fl;4:fi;3:SANDHI go ge;3:op fi fl ar;5:ar",
    "3:SANDHI go ge ar;4:fi fl;4:fi;5:fl ar;5:ar;3:MID-LEVEL fi;3:go ge hx;3:MID-LEVEL fi fl ar",
    "5:ar;3:LOW-FALLING fi fl;4:fi;3:go ge;3:LOW-FALLING fi fl ar;5:ar;3:go ge ar",
    "@11C00 0:BHAIKSUKI aa A;AA;I;II;U;UU;cw R;RR;L;@11C0A 2:E;AI;O;AU;KA;lo;GA;qq;kp;CA;lg;JA;ul",
    "lj;pf;jv;ph;ka;qz;TA;mh;DA;po;NA;PA;nx;BA;re;MA;YA;RA;LA;VA;kt;td;SA;HA;1:cm ak AA;I;II;U;UU",
    "cw R;RR;L;@11C38 3:E;AI;O;AU;1:ak df;ct;ew;fn;io;1:jc;al jc;1:zt fh;1:GAP FILLER-1;+",
    "@11C50 1:cr ex;cs;co;aw;bt;by;fx;bv;br;dm;1:dq cs;co;aw;bt;by;fx;bv;br;dm;jx;fm;jk;od;im;ou",
    "ff;mm;gb;1:HUNDREDS UNIT bj;@11C70 0:MARCHEN tq bj;1:bj xf;1:aa KA;lo;GA;kp;CA;lg;JA;lj;TA;mh",
    "DA;NA;PA;nx;BA;MA;zo;zp;DZA;WA;ZHA;ZA;-A;YA;RA;LA;kt;SA;HA;A;@11C92 1:sd aa KA;lo;GA;kp;CA;lg",
    "JA;lj;TA;mh;DA;NA;PA;nx;BA;MA;zo;zp;DZA;WA;ZHA;ZA;@11CA9 YA;RA;LA;kt;SA;HA;A;1:cm ak AA;I;U;E",
    "O;1:ak ct;df;@11D00 0:MASARAM GONDI aa A;AA;I;II;U;UU;E;@11D08 AI;O;@11D0B AU;KA;lo;GA;qq;kp",
    "CA;lg;JA;ul;lj;pf;jv;ph;ka;qz;TA;mh;DA;po;NA;PA;nx;BA;re;MA;YA;RA;LA;VA;kt;td;SA;HA;LLA;KSSA",
    "JNYA;TRA;2:cm ak AA;I;II;U;UU;cw R;@11D3A 4:E;@11D3C AI;O;@11D3F AU;2:ak ct;ew;kq;mj;HALANTA",
    "2:fn;REPHA;RA-KARA;@11D50 cr ex;cs;co;aw;bt;by;fx;bv;br;dm;@11D60 0:GUNJALA GONDI aa A;AA;I",
    "II;U;UU;@11D67 EE;AI;@11D6A OO;AU;YA;VA;BA;re;MA;KA;lo;TA;mh;LA;GA;qq;DA;po;NA;CA;lg;pf;jv",
    "LLA;JA;ul;ph;ka;kp;PA;nx;HA;RA;SA;2:cm ak AA;I;II;U;UU;@11D90 EE;AI;@11D93 OO;AU;2:ak ct;ew",
    "2:fn;OM;@11DA0 cr ex;cs;co;aw;bt;by;fx;bv;br;dm;@11EE0 0:MAKASAR aa KA;GA;kp;PA;BA;MA;TA;DA",
    "NA;CA;JA;lj;YA;RA;LA;VA;SA;A;1:ANGKA;cm ak I;U;E;O;1:PASSIMBANG;yf OF hi;@11FB0 0:LISU aa YHA",
    "@11FC0 0:TAMIL hq cs THREE-HUNDRED-AND-TWENTIETH;rl;EIGHTIETH;zn;FORTIETH;wi;2:aw EIGHTIETHS",
    "SIXTY-FOURTHS;2:cs TWENTIETH;SIXTEENTH-1;+;TENTH;hy;2:aw TWENTIETHS;xi;2:cs FIFTH;fk;HALF-1;+",
    "2:aw ji;2:DOWNSCALING FACTOR KIIZH;1:ak NEL;CEVITU;AAZHAAKKU;UZHAKKU;MUUVUZHAKKU;KURUNI",
    "PATHAKKU;MUKKURUNI;KAACU;PANAM;PON;VARAAKAN;PAARAM;KUZHI;VELI;1:WET CULTIVATION ak",
    "1:DRY CULTIVATION ak;1:LAND ak;1:SALT PAN ak;1:TRADITIONAL CREDIT ak;2:dq ak;1:CURRENT ak",
    "1:bi ODD ak;1:SPENT ak;1:TOTAL ak;1:IN POSSESSION ak;1:STARTING me ak;1:ak MUTHALIYA",
    "VAKAIYARAA;@11FFF 1:cc yf OF TEXT;0:CUNEIFORM ak A;3:bs A;BAD;uh jy;4:HA;IGI;LAGAR id;4:MUSH",
    "SAG;2:A2;AB;3:bs ASH2;DUN3 id;4:GAL;uh jy;4:HA;IGI id;4:IMIN;uo;SHESH;U cz U cz U;3:id;2:AB2",
    "3:bs BALAG;uh jy;4:ME cz EN;4:SHA3;xl;2:AD;AK;3:bs ERIN2;SHITA cz wr;2:AL;3:bs AL;DIM2;wr;HA",
    "KAD3;KI;vy;USH;2:ALAN;os;AMAR;3:bs vy;2:AN;3:dy AN;3:aw bs;3:cz NAGA qf AN cz NAGA;5:fb",
    "2:ANSHE;APIN;ARAD;3:bs KUR;2:ARKAB;ASAL2;qt;3:ZIDA jy;3:KABA jy",
    "3:dy qt TUG2 dy TUG2 TUG2 dy TUG2 PAP;5:dy qt;7:ep qt dy qt dy qt;2:ASH2;ASHGAB;BA;BAD;BAG3",
    "BAHAR2;BAL;3:dy BAL;2:BALAG;gf;BARA2;BI;3:bs A;GAR;IGI id;2:BU;3:dy BU AB;UN;3:ep BU;2:BULUG",
    "3:dy BULUG;2:BUR;BUR2;DA;DAG;3:KISIM5 bs A cz MASH;5:AMAR;BALAG;BI;GA;6:cz MASH;5:GI;GIR2;GUD",
    "HA;IR;6:cz LU;5:KAK;LA;LU;6:cz MASH2;5:LUM;NE;PAP cz PAP;5:SI;xl;U2 cz GIR2;5:USH;2:DAM;DAR",
    "DARA3;+;DI;DIB;DIM;3:bs vy;2:DIM2;DIN;3:pz U id qs;2:qs;DU;3:dy DU;3:id;tc;2:DUB;3:bs ESH2",
    "2:DUB2;DUG;DUGUD;DUH;DUN;DUN3;3:id;4:id;2:DUN4;DUR2;E;3:bs PAP;3:dy E qr dy qr;2:E2",
    "3:bs A cz HA cz DA;4:GAR;MI;SAL;vy;U;2:EDIN;EGIR;EL;EN;3:bs uh;5:jy;4:ME;3:ep EN;3:qf EN;3:fb",
    "2:EREN;ERIN2;ESH2;EZEN;3:bs A;5:cz LAL;7:bs LAL;4:AN;BAD;DUN3 id;6:id;4:HA;5:id;4:IGI id;4:pz",
    "5:fb;4:KU3;LA;LAL bs LAL;4:LI;LU;U2;UD;2:GA;3:id;2:GA2;3:bs A cz DA cz HA;6:HA;IGI",
    "4:AB2 jy cz TAB;4:AN;qt;ASH2 cz GAL;4:BAD;gf cz RA;4:BUR;5:cz RA;4:DA;DI;DIM bs vy;4:DUB;EL",
    "5:cz LA;4:EN;5:bs uh jy;4:uh jy;4:GAR;GI;GI4;5:cz A;4:GIR2 cz SU;4:HA cz LU cz ESH2;4:HAL",
    "5:cz LA;4:HI cz LI;4:HUB2;IGI id;4:ISH cz HU cz qt;4:KAK;pz;KID;5:cz LAL;4:KU3 cz AN;4:LA",
    "ME cz EN;4:MI;qr;5:dy qr;4:PA;SAL;SAR;vy;5:cz TUR;4:SHID;SUM;xl;U;UD;5:cz DU;3:dy GA2;2:GABA",
    "3:ep GABA;2:GAD;3:dy GAD GAR dy GAR;2:GAL;3:GAD dy GAD GAR dy GAR;2:GALAM;GAM;+;uh;3:jy;dy uh",
    "3:ep uh;2:GAR;GAR3;GASHAN;GESHTIN;3:bs KUR;2:GI;3:bs E;U;3:ep GI;2:GI4;3:dy GI4;3:ep GI4",
    "2:GIDIM;GIR2;3:id;2:GIR3;3:bs A cz IGI;4:uh jy;4:IGI;LU cz IGI;4:PA;2:GISAL;wr;3:ep wr",
    "3:bs BAD;xl;3:jy;2:GU;3:ep GU;2:GU2;3:bs KAK;5:bs IGI id;4:qr;SAL cz TUG2;3:id;2:GUD",
    "3:bs A cz KUR;4:KUR;3:dy GUD LUGAL;2:GUL;+;3:bs vy;2:GUR;GUR7;GURUN;GURUSH;HA;3:jy;id;2:HAL",
    "HI;3:bs qt;ASH2;BAD;qs;GAD;KIN;qr;vy;U;2:HU;HUB2;3:bs AN;HAL;pz;LISH;UD;2:HUL2;I;3:A;2:IB",
    "IDIM;3:dy IDIM BUR;fb;2:IG;IGI;3:DIB;RI;dy IGI SHIR dy SHIR UD dy UD;3:id;2:IL;3:bs uh jy",
    "2:IL2;IM;3:bs xl;3:ep IM;3:qf IM;3:fb;2:IMIN;IN;IR;ISH;KA;3:bs A;AD;5:cz KU3;4:ASH2;BAD;BALAG",
    "gf;BI;ERIN2;ESH2;GA;GAL;uh jy;4:GAR;5:cz SHA3 cz A;4:GI;GIR2;wr cz SAR;5:ep wr;4:GU;GUR7;IGI",
    "IM;KAK;KI;KID;LI;LU;ME;5:cz DU;GI;TE;4:MI;5:cz NUNUZ;4:NE;qr;PI;RU;SA;SAR;kt;vy;SHID;SHU;SIG",
    "SUHUR;TAR;U;U2;UD;UMUM bs PA;4:USH;ZI;2:KA2;3:ep KA2;2:KAB;KAD2;+3;3:dy KAD5;2:KAK",
    "3:bs IGI id;2:KAL;3:bs BAD;3:ep KAL;2:KAM2;KAM4;pz;3:uo bs U dy uo bs U",
    "3:dy pz uo bs U dy uo bs U;2:KESH2;KI;3:bs BAD;U;UD;2:KID;KIN;KISAL;KISH;KISIM5;3:dy KISIM5",
    "2:KU;3:dy HI bs ASH2 KU dy HI bs ASH2;2:KU3;+;3:hx af;2:KU7;KUL;3:id;2:KUN;KUR;3:qf KUR",
    "2:KUSHU2;KWU318;LA;uo;3:bs A;5:cz DA cz HA;6:GAR;LAL;4:AL;AN;qt ZIDA jy;4:BAD;BI;DAR;EN;GA",
    "GAR;GUD;5:cz GUD;4:HA;HAL;HI bs qr;4:IGI id;4:IM;5:cz HA;LU;4:KI;KIN;KU3;KUL;5:cz HI cz A",
    "4:uo;LISH;LU;LUL;ME;5:cz EN;4:MUSH;NE;vy cz SUM;4:SHITA cz wr cz ERIN2;7:jy;4:SHU2;5:cz SHU2",
    "4:SUM;TAG;xl;TE cz A cz SU cz NA;4:U;5:cz A;U cz U;4:U2 cz qt;4:UD;USH;3:fb;2:LAGAR;3:bs vy",
    "5:cz SUM;3:id;4:dy LAGAR id vy;2:LAHSHU;LAL;3:bs LAL;2:tu;3:bs KUR;5:cz RU;2:LI;LIL;LIMMU2",
    "LISH;LU;3:bs BAD;2:LU2;3:bs AL;BAD;ESH2;5:jy;4:uh jy;4:HI bs BAD;4:IM;KAD2;+;5:cz qt;4:KI",
    "LA cz qt;4:uo;ME cz EN;4:NE;NU;SI cz qt;4:SIK2 cz BU;4:TUG2;3:jy;ep LU2;3:qf LU2;3:fb;tc",
    "2:LU3;LUGAL;3:dy LUGAL;3:qf LUGAL;3:tc;2:LUH;LUL;+;3:dy LUM;5:GAR dy GAR;2:MA;3:bs xl;3:id",
    "2:MA2;MAH;MAR;MASH;MASH2;ME;MES;MI;MIN;MU;3:dy MU;2:MUG;3:id;2:MUNSUB;MURGU2;MUSH;3:bs A;KUR",
    "ZA;3:dy MUSH;5:bs A cz NA;3:ep MUSH;2:MUSH3;3:bs A;5:cz DI;4:DI;3:id;2:NA;NA2;NAGA;3:ca",
    "bs SHU jy;3:qf NAGA;2:NAGAR;NAM NUTILLU;2:NAM;NAM2;NE;3:bs A;UD;3:tc;2:NI;3:bs E;2:NI2;NIM",
    "3:bs uh jy;4:GAR cz uh jy;2:NINDA2;3:bs AN;qt;5:cz qt;4:GUD;ME cz uh jy;4:NE;qr;vy;5:cz A AN",
    "6:qt;7:cz qt;4:U2 cz qt;4:USH;2:NISAG;NU;NU11;qr;3:LAGAR bs GAR;MASH;SAL;6:dy qr LAGAR bs SAL",
    "5:USH;3:jy;dy qr;3:ep qr;5:LAGAR dy LAGAR;2:NUNUZ;3:AB2 bs ASHGAB;BI;DUG;GUD;IGI id;5:KAD3;LA",
    "NE;SILA3;U2;3:KISIM5 bs BI;6:U;2:PA;PAD;PAN;PAP;PESH2;PI;3:bs A;AB;BI;BU;E;I;IB;U;U2;3:ep PI",
    "2:PIRIG;3:bs KAL;UD;ZA;3:qf PIRIG;2:RA;RAB;RI;RU;SA;SAG NUTILLU;2:SAG;3:bs A;DU;DUB;HA;KAK",
    "KUR;LUM;MI;qr;SAL;SHID;TAB;U2;UB;UM;UR;USH;3:dy SAG;3:id;2:SAL;3:uo bs ASH2;2:SANGA2;SAR;kt",
    "SHA3;3:bs A;BAD;wr;NE;SHU2;TUR;U;5:cz A;2:SHA6;SHAB6;zm;vy;3:HU;dy vy GAD dy GAD GAR dy GAR",
    "5:TAB dy TAB GAR dy GAR;2:SHEG9;SHEN;SHESH;SHESH2;SHESHLAM;SHID;3:bs A;IM;2:SHIM;3:bs A;BAL",
    "BULUG;DIN;GAR;IGI;5:id;4:KUSHU2;LUL;MUG;SAL;2:SHINIG;SHIR;3:jy;dy SHIR BUR dy BUR;2:SHITA;SHU",
    "3:dy ca SHU;2:SHU2;SHUBUR;SI;3:id;2:SIG;SIG4;3:dy SIG4 SHU2;2:SIK2;SILA3;SU;3:dy SU;2:SUD",
    "SUD2;SUHUR;SUM;SUMASH;SUR;SUR9;TA;3:dh;bs HI;MI;3:id;2:TAB;3:dy TAB NI dy NI qs dy qs;3:fb",
    "2:TAG;3:bs BI;GUD;vy;SHU;TUG2;UD;2:xl;TAR;TE;3:id;2:TI;3:jy;2:TIL;TIR;3:bs xl;3:dy TIR",
    "5:GAD dy GAD GAR dy GAR;2:TU;TUG2;TUK;TUM;TUR;3:dy TUR ZA dy ZA;2:U;3:GUD;U U",
    "3:dy U PA dy PA GAR dy GAR;5:SUR dy SUR;5:U bq dy U bq;2:U2;UB;UD;3:KUSHU2;bs BAD;MI",
    "U cz U cz U;9:id;3:id;tc;4:bs BAD;2:UDUG;UM;3:bs uo;ME cz DA;4:SHA3;U;2:UMBIN;UMUM;3:bs pz;PA",
    "2:UN;3:id;2:UR;3:ep UR;3:tc;2:UR2;3:bs A cz HA;NA;4:AL;HA;qr;U2;5:cz qt;BI;2:UR4;URI;URI3;URU",
    "3:bs A;ASHGAB;gf;DUN;GA;GAL;uh jy;4:GAR;GU;HA;IGI;IM;ISH;KI;LUM;MIN;PA;vy;SIG4;TU;U cz GUD",
    "4:UD;URUDA;2:URUDA;3:bs U;2:USH;3:bs A;KU;KUR;xl;2:USHX;USH2;USHUMX;UTUKI;UZ3;3:bs pz;2:UZU",
    "ZA;3:jy;fb bs KUR;2:ZAG;ZAMX;ZE2;ZI;3:dy ZI;2:ZI3;ZIB;3:KABA jy;2:ZIG;ZIZ2;ZU;ZU5;3:bs A",
    "2:ZUBUR;ZUM;KAP ELAMITE;2:AB bs qr;2:AB2 bs A;2:AMAR bs KUG;2:DAG KISIM5 bs U2 cz MASH;2:DAG3",
    "qs cz SHU;2:DUB bs vy;2:EZEN bs GUD;vy;2:GA2 bs AN cz KAK cz A;4:ASH2;2:GE22;GIG;HUSH",
    "KA bs ANSHE;ASH3;wr;GUD;HI bs ASH2;4:LUM;PA;SHUL;TU;UR2;2:uo bs GI;2:LU2 tc bs BAD",
    "3:bs ESH2 cz LAL;4:SHU;2:MESH;MUSH3 bs ZA;2:NA4;NIN;NIN9;NINDA2 bs BAL;GI;2:NU11 cp gb dn",
    "2:PESH2 dh;2:PIR2;SAG bs IGI id;2:TI2;UM bs ME;2:U U;@12400 1:NUMERIC ak co qt;3:aw qt",
    "3:bt qt;3:by qt;3:fx qt;3:bv qt;3:br qt;3:dm qt;3:aw qs;3:bt qs;3:by qs;3:fx qs;3:bv qs",
    "3:br qs;3:dm qs;3:bt U;3:by U;3:fx U;3:bv U;3:br U;3:dm U;3:cs GESH2;3:co GESH2;3:aw GESH2",
    "3:bt GESH2;3:by GESH2;3:fx GESH2;3:bv GESH2;3:br GESH2;3:dm GESH2;3:cs GESHU;3:co GESHU",
    "3:aw GESHU;3:bt GESHU;3:by GESHU;3:co zm;3:aw zm;5:hx af;3:bt zm;3:by zm;3:fx zm;3:bv zm",
    "3:br zm;3:dm zm;3:cs SHARU;3:co SHARU;3:aw SHARU;5:hx af;3:bt SHARU;3:by SHARU",
    "3:zm bs GAL cz qs;MIN;3:cs BURU;3:co BURU;3:aw BURU;5:hx af;3:bt BURU;3:by BURU",
    "3:aw hx af ESH16;ESH21;3:bt hx af LIMMU;LIMMU4;LIMMU A;+;3:fx hx af ASH9;3:bv hx af IMIN3",
    "IMIN A;+;3:br hx af USSU;USSU3;3:dm hx af ILIMMU;ILIMMU3;+;ILIMMU A;3:co qt jy;3:aw qt jy",
    "3:bt qt jy;3:by qt jy;3:fx qt jy;3:cs BAN2;3:co BAN2;3:aw BAN2;3:bt BAN2;5:hx af;3:by BAN2",
    "5:hx af;3:NIGIDAMIN;NIGIDAESH;cs ESHE3;3:co ESHE3;3:cs tm qs;3:co vh qs;3:by SIXTHS qs",
    "3:cs tm hx af A;3:co vh hx af A;3:cs hy qt;4:fk qt;3:oh ASSYRIAN cs SIXTH;fk;3:cs fk GUR",
    "4:dg GUR;3:ELAMITE cs tm;4:co vh;4:od;im;3:bt U hx af;3:by U hx af;3:fx U hx af;3:bv U hx af",
    "3:br U hx af;3:dm U hx af;@12470 1:cc ak oh ASSYRIAN zt yd;3:an iw;3:dl iw;TRICOLON;QUADCOLON",
    "@12480 1:ak AB bs qr jy;4:SHU2;2:AD bs ESH2;2:BAD bs qs jy;2:BAHAR2 bs AB2;NI;ZA",
    "2:BU dy BU bs NA2;2:DA bs xl;2:DAG bs KUR;2:DIM bs IGI;U U U;2:DIM2 bs UD;2:DUG bs ANSHE;qt",
    "5:AT av;4:DIN;DUN;ERIN2;GA;GI;GIR2 id;4:wr;HA;HI;IGI id;4:pz;KUR;KUSHU2;5:cz pz;4:LAK-020;tu",
    "5:bs KUR;4:LUH cz wr;4:MASH;MES;MI;NI;PI;vy;SI id;2:E2 bs KUR;PAP;2:ERIN2 X;2:ESH2 ep ESH2",
    "2:EZEN tc bs qt;HI;IGI id;5:LA;LAL;ME;MES;SU;3:bs SU;2:GA2 bs BAHAR2;DIM id;4:DUG bs IGI id",
    "6:pz;4:EREN;GA;GAR cz DI;NE;4:HA cz A;4:KUSHU2 cz pz;4:tu;5:bs KUR;4:LUH;MUSH;NE;5:cz E2;GI",
    "4:SHIM;ZIZ2;2:GABA cp gb dn;2:GESHTIN bs U;2:wr bs wr ep wr;2:GU2 bs IGI id;2:GUD cz wr bs xl",
    "2:HA jy id;2:HI bs qt dy HI bs qt;2:KA bs BU;KA;U U U;4:UR;2:uo bs ZU dy ZU;2:LAK-003;LAK-021",
    "LAK-025;LAK-030;LAK-050;+;LAK-062;LAK-079 dy LAK-079 id;2:LAK-080;LAK-081 dy LAK-081",
    "2:LAK-092;LAK-130;LAK-142;LAK-210;LAK-219;LAK-220;LAK-225;LAK-228;LAK-238;LAK-265;+;LAK-343",
    "LAK-347;+;LAK-383;+;LAK-390;LAK-441;LAK-449;3:bs GU;IGI;PAP cz LU3;PAP cz LU3;4:U2 cz BA",
    "2:LAK-450;LAK-457;LAK-470;LAK-483;LAK-490;LAK-492;+;LAK-495;LAK-550;LAK-608;LAK-617;3:bs qt",
    "BAD;DUN3 id id;4:KU3;LA;TAR;TE;U2;UD;URUDA;2:LAK-636;LAK-648;3:bs DUB;GA;IGI;5:id;4:NI",
    "PAP cz PAP cz LU3;4:SHESH cz KI;4:UD;URUDA;2:LAK-724;LAK-749;LU2 id bs qt;3:bs qs;HAL;PAP",
    "5:cz PAP cz LU3;4:xl;2:MI cz ZA7;2:MUSH dy MUSH bs GA;KAK;2:NINDA2 bs DIM id;4:wr;GUL;HI",
    "KESH2;LAK-050;MASH;PAP cz PAP;4:U;5:cz U;4:URUDA;2:SAG id bs HA;3:bs EN;vy AT av;4:xl",
    "2:SHA6 jy;2:vy dy vy;3:cz HUB2;NAM2;SAR;2:SHU2 cz DUG bs NI;4:E2 bs AN;2:SI bs xl;2:xl cz SAG",
    "2:TUM bs uh jy;4:aw qs;2:UR2 ca;bs UD;2:URU bs DARA3;LAK-668;LU3;2:ZA7;ZU dy ZU cz SAR",
    "2:ZU5 bs aw qs jy;@12F90 0:CYPRO-MINOAN ak CM001;+;CM004;+5;CM010;+2;CM012B;CM013;CM015;CM017",
    "CM019;CM021;CM023;+6;CM030;CM033;+6;CM040;+;CM044;CM046;+;CM049;CM050;+6;CM058;+;CM060;+4",
    "CM066;+3;CM070;+5;CM075B;CM076;CM078;+;CM080;+9;CM090;+2;CM094;+5;CM100;+5;CM107;+2;CM110",
    "CM112;CM114;CM301;+;@13000 0:EGYPTIAN HIEROGLYPH A001;+4;A005A;A006;A006A;+;A007;+2;A010;+4",
    "A014A;A015;+2;A017A;A018;+;A020;+9;A030;+2;A032A;A033;+6;A040;A040A;A041;+;A042A;A043;A043A",
    "A044;+;A045A;A046;+3;A050;+9;A060;+9;A070;B001;+4;B005A;B006;+3;C001;+;C002A;+2;C003;+6;C010",
    "C010A;C011;+8;C020;+4;D001;+7;D008A;D009;D010;+9;D020;+7;D027A;D028;+;D030;+;D031A;D032;+2",
    "D034A;D035;+4;D040;+6;D046A;D047;+;D048A;D049;D050;D050A;+8;D051;+;D052A;D053;+;D054A;D055;+4",
    "D060;+7;D067A;+7;E001;+7;E008A;E009;E009A;E010;+6;E016A;E017;E017A;E018;+;E020;E020A;E021;+7",
    "E028A;E029;E030;+4;E034A;E036;+2;F001;F001A;F002;+7;F010;+3;F013A;F014;+5;F020;+;F021A;F022",
    "+7;F030;+;F031A;F032;+5;F037A;F038;F038A;F039;F040;+5;F045A;F046;F046A;F047;F047A;F048;+;F050",
    "+;F051A;+2;F052;+;G001;+5;G006A;G007;G007A;+;G008;+;G010;+;G011A;G012;+7;G020;G020A;G021;+5",
    "G026A;G027;+2;G030;+6;G036A;G037;G037A;G038;+;G040;+3;G043A;G044;+;G045A;G046;+3;G050;+4;H001",
    "+5;H006A;H007;+;I001;+4;I005A;I006;+3;I009A;I010;I010A;I011;I011A;I012;+3;K001;+7;L001;+",
    "L002A;L003;+3;L006A;L007;+;M001;M001A;+;M002;+;M003A;M004;+5;M010;M010A;M011;+;M012A;+7;M013",
    "+2;M015A;M016;M016A;M017;M017A;M018;+;M020;+2;M022A;M023;+;M024A;M025;+3;M028A;M029;M030;+",
    "M031A;M032;+;M033A;+;M034;+5;M040;M040A;M041;+3;N001;+8;N010;+8;N018A;+;N019;N020;+5;N025A",
    "N026;+3;N030;+3;N033A;N034;N034A;N035;N035A;N036;+;N037A;N038;+;N040;+2;NL001;+4;NL005A;NL006",
    "+3;NL010;+7;NL017A;NL018;+;NL020;NU001;+8;NU010;NU010A;NU011;NU011A;NU012;+6;NU018A;NU019",
    "NU020;+2;NU022A;O001;O001A;O002;+3;O005A;O006;O006A;+5;O007;+2;O010;O010A;+2;O011;+8;O019A",
    "O020;O020A;O021;+3;O024A;O025;O025A;O026;+3;O029A;O030;O030A;O031;+2;O033A;O034;+2;O036A;+3",
    "O037;+2;O040;+9;O050;O050A;+;O051;P001;P001A;P002;+;P003A;P004;+5;P010;+;Q001;+6;R001;+;R002A",
    "R003;R003A;+;R004;+5;R010;R010A;R011;+5;R016A;R017;+2;R020;+9;S001;+;S002A;S003;+3;S006A;S007",
    "+2;S010;+4;S014A;+;S015;+2;S017A;S018;+;S020;+6;S026A;+;S027;+2;S030;+5;S035A;S036;+3;S040;+6",
    "T001;+2;T003A;T004;+3;T007A;T008;T008A;T009;T009A;T010;+;T011A;T012;+4;T016A;T017;+2;T020;+9",
    "T030;+2;T032A;T033;T033A;T034;+2;U001;+5;U006A;+;U007;+2;U010;+9;U020;+3;U023A;U024;+5;U029A",
    "U030;+2;U032A;U033;+6;U040;+2;V001;V001A;+8;V002;V002A;V003;+4;V007A;+;V008;+;V010;+;V011A;+2",
    "V012;V012A;+;V013;+6;V020;V020A;+11;V021;+2;V023A;V024;+4;V028A;V029;V029A;V030;V030A;V031",
    "V031A;V032;+;V033A;V034;+3;V037A;V038;+;V040;V040A;W001;+2;W003A;W004;+5;W009A;W010;W010A",
    "W011;+3;W014A;W015;+2;W017A;W018;W018A;W019;W020;+4;W024A;W025;X001;+3;X004A;+;X005;+;X006A",
    "X007;+;X008A;Y001;Y001A;Y002;+6;Z001;+;Z002A;+3;Z003;Z003A;+;Z004;Z004A;Z005;Z005A;Z006;+3",
    "Z010;+5;Z015A;+8;Z016;Z016A;+7;AA001;+6;AA007A;+;AA008;+;AA010;+9;AA020;+9;AA030;+2",
    "@13430 an JOINER;2:as JOINER;2:INSERT AT se START;4:ha START;4:se yf;4:ha yf;2:ho bb",
    "2:BEGIN SEGMENT;2:yf SEGMENT;@14400 0:ANATOLIAN HIEROGLYPH A001;+8;A010;A010A;A011;+8;A020;+6",
    "A026A;A027;+2;A030;+9;A039A;A040;+;A041A;A042;+3;A045A;A046;A046A;+;A047;+2;A050;+9;A060;+6",
    "A066A;+2;A067;+2;A070;+9;A080;+9;A090;+7;A097A;A098;A098A;A099;A100;A100A;A101;A101A;A102",
    "A102A;A103;+;A104A;+2;A105;A105A;+;A106;+;A107A;+2;A108;+;A110;A110A;+;A111;+4;A115A;A116;+3",
    "A120;+5;A125A;A126;+3;A130;+5;A135A;A136;+3;A140;+9;A150;+9;A160;+9;A170;+9;A180;+9;A190;+9",
    "A200;+2;A202A;+;A203;+4;A207A;A208;+;A209A;A210;+5;A215A;A216;A216A;A217;+2;A220;+7;A227A",
    "A228;+;A230;+9;A240;+9;A250;+9;A260;+7;A267A;A268;+;A270;+9;A280;+9;A289A;A290;+4;A294A;A295",
    "+4;A299A;A300;+9;A309A;A310;+9;A320;+9;A329A;A330;+;A332A;+2;A333;+3;A336A;+2;A337;+2;A340;+9",
    "A350;+9;A359A;A360;+4;A364A;A365;+3;A368A;A369;A370;+;A371A;A372;+7;A380;+;A381A;A382",
    "A383 RA OR RI;2:A383A;A384;+2;A386A;A387;+2;A390;+2;A393 br;2:A394;+5;A400;+9",
    "A410 BEGIN yt bj;2:A410A yf yt bj;2:A411;+8;A420;+9;A430;+9;A440;+9;A450;A450A;A451;+6;A457A",
    "A458;+;A460;+9;A470;+9;A480;+9;A490;+7;A501;+8;A510;+9;A520;+9;A530",
    "@16800 0:BAMUM aa PHASE-A NGKUE MFON;3:GBIEE FON;3:PON MFON PIPAEMGBIEE;PIPAEMBA;3:NAA MFON",
    "3:SHUENSHUET;TITA MFON;3:NZA MFON;3:SHINDA PA NJI;3:PON PA NJI PIPAEMGBIEE;PIPAEMBA",
    "3:MAEMBGBIEE;TU MAEMBA;3:NGANGU;MAEMVEUX;MANSUAE;MVEUAENGAM;SEUNYAM;NTOQPEN;KEUKEUTNDA;NKINDI",
    "SUU;NGKUENZEUM;LAPAQ;LET KUT;3:NTAP MFAA;3:MAEKEUP;PASHAE;GHEUAERAE;PAMSHAE;MON NGGEUAET",
    "3:NZUN MEUT;3:U YUQ NAE;3:GHEUAEGHEUAE;NTAP NTAA;3:SISA;MGBASA;MEUNJOMNDEUQ;MOOMPUQ;KAFA",
    "PA LEERAEWA;3:NDA LEERAEWA;3:PET;MAEMKPEN;NIKA;PUP;TUAEP;LUAEP;SONJAM;TEUTEUWEN;MAENYI;KET",
    "NDAANGGEUAET;KUOQ;MOOMEUT;SHUM;LOMMAE;FIRI;ROM;KPOQ;SOQ;MAP PIEET;3:SHIRAE;NTAP",
    "SHOQ NSHUT YUM;3:NYIT MONGKEUAEQ;3:PAARAE;NKAARAE;UNKNOWN;NGGEN;MAESI;NJAM;MBANYI;NYET;TEUAEN",
    "SOT;PAAM;NSHIEE;MAEM;NYI;KAQ;NSHA;VEE;LU;NEN;NAQ;MBAQ;2:PHASE-B NSHUET;TU MAEMGBIEE;3:SIEE",
    "SET TU;3:LOM NTEUM;3:MBA MAELEE;3:KIEEM;YEURAE;MBAARAE;KAM;PEESHI;YAFU LEERAEWA",
    "3:tu NSHUT NYAM;3:NTIEE SHEUOQ;3:NDU NJAA;3:GHEUGHEUAEM;PIT;TU NSIEE;3:SHET NJAQ;3:SHEUAEQTU",
    "MFON TEUAEQ;3:MBIT MBAAKET;3:NYI NTEUM;3:KEUPUQ;GHEUGHEN;KEUYEUX;LAANAE;PARUM;VEUM",
    "NGKINDI MVOP;3:NGGEU MBU;3:WUAET;SAKEUAE;TAAM;MEUQ;NGGUOQ;4:ee;3:MFIYAQ;SUE;MBEURI;MONTIEEN",
    "NYAEMAE;PUNGAAM;MEUT NGGEET;3:FEUX;MBUOQ;FEE;KEUAEM;MA NJEUAENA;NJUQA;3:LET;NGGAAM;NSEN;MA",
    "KIQ;NGOM;2:PHASE-C NGKUE MAEMBA;3:NZA;YUM;WANGKUOQ;NGGEN;NDEUAEREE;NGKAQ;GHARAE;MBEEKEET",
    "GBAYI;NYIR MKPARAQ MEUN;3:NTU MBIT;3:MBEUM;PIRIEEN;NDOMBU;MBAA CABBAGE-TREE;3:KEUSHEUAEP;GHAP",
    "KEUKAQ;YU MUOMAE;3:NZEUM;MBUE;NSEUAEN;MBIT;YEUQ;KPARAQ;KAA;SEUX;NDIDA;TAASHAE;NJUEQ;TITA YUE",
    "3:SUAET;NGGUAEN NYAM;3:VEUX;NANSANAQ;MA KEUAERI;3:NTAA;NGGUON;LAP;MBIRIEEN;MGBASAQ;NTEUNGBA",
    "TEUTEUX;NGGUM;FUE;NDEUT;NSA;NSHAQ;BUNG;VEUAEPEN;MBERAE;RU;NJAEM;tu;TITUAEP;NSUOT NGOM",
    "3:NJEEEE;KET;NGGU;MAESI;MBUAEM;LU;KUT;NJAM;NGOM;WUP;NGGUEET;NSOM;NTEN;KUOP NKAARAE;3:NSUN",
    "NDAM;MA NSIEE;3:YAA;NDAP;SHUEQ;SETFON;MBI;MAEMBA;MBANYI;KEUSEUX;MBEUX;KEUM;MBAA PICKET",
    "3:YUWOQ;NJEUX;MIEE;MUAE;SHIQ;KEN LAW;FATIGUE;3:NGAQ;NAQ;LIQ;PIN;PEN;TET;2:PHASE-D MBUO;WAP",
    "NJI;MFON;NJIEE;LIEE;NJEUT;NSHEE;NGGAAMAE;NYAM;WUAEN;NGKUN;SHEE;NGKAP;KEUAETMEUN;TEUT;SHEUAE",
    "NJAP;SUE;KET;YAEMMAE;KUOM;SAP;MFEUT;NDEUX;MALEERI;MEUT;SEUAEQ;YEN;NJEUAEM;KEUOT MBUAE",
    "3:NGKEURI;TU;GHAA;NGKYEE;FEUFEUAET;NDEE;MGBOFUM;LEUAEP;NDON;MONI;MGBEUN;PUUT;MGBIEE;MFO;LUM",
    "NSIEEP;MBAA;KWAET;NYET;TEUAEN;SOT;YUWOQ;KEUM;RAEM;TEEEE;NGKEUAEQ;MFEUAE;NSIEET;KEUP;PIP",
    "PEUTAE;NYUE;LET;NGGAAM;MFIEE;NGGWAEN;YUOM;PAP;YUOP;NDAM;NTEUM;SUAE;KUN;NGGEUX;NGKIEE;TUOT",
    "MEUN;KUQ;NSUM;TEUN;MAENJET;NGGAP;LEUM;NGGUOM;NSHUT;NJUEQ;GHEUAE;KU;REN oh;3:TAE;TOQ;NYI;RII",
    "LEEEE;MEEEE;M;SUU;MU;SHII;SHEUX;KYEE;NU;SHU;NTEE;PEE;NI;SHOQ;PUQ;MVOP;LOQ;REN MUCH;3:TI;NTUU",
    "MBAA bv;3:SAQ;FAA;2:PHASE-E NDAP;TOON;MBEUM;LAP;VOM;LOON;PAA;SOM;RAQ;NSHUOP;NDUN;PUAE;TAM",
    "NGKA;KPEUX;WUO;SEE;NGGEUAET;PAAM;TOO;KUOP;LOM;NSHIEE;NGOP;MAEM;NGKEUX;NGOQ;NSHUE;RIMGBA;NJEUX",
    "PEEM;SAA;NGGURAE;MGBA;GHEUX;NGKEUAEM;NJAEMLI;MAP;LOOT;NGGEEEE;NDIQ;TAEN NTEUM;3:SET;PUM",
    "NDAA SOFTNESS;3:NGGUAESHAE NYAM;3:YIEE;GHEUN;TUAE;YEUAE;PO;TUMAE;KEUAE;SUAEN;TEUAEQ;VEUAE",
    "WEUX;LAAM;PU;TAAQ;GHAAMAE;NGEUREUT;SHEUAEQ;MGBEN;MBEE;NZAQ;NKOM;GBET;TUM;KUET;YAP;NYI CLEAVER",
    "3:YIT;MFEUQ;NDIAQ;PIEEQ;YUEQ;LEUAEM;FUE;GBEUX;NGKUP;KET;MAE;NGKAAMI;GHET;FA;NTUM;PEUT;YEUM",
    "NGGEUAE;NYI jn;3:NZUQ;POON;MIEE;FUET;NAE;MUAE;GHEUAE;FU I;3:MVI;PUAQ;NGKUM;KUT;PIET;NTAP",
    "YEUAET;NGGUP;PA PEOPLE;3:FU CALL;3:FOM;NJEE;A;TOQ;O;I;LAQ;PA PLURAL;3:TAA;TAQ;NDAA MY HOUSE",
    "3:SHIQ;YEUX;NGUAE;YUAEN;YOQ SWIMMING;COVER;3:YUQ;YUN;KEUX;PEUX;NJEE EPOCH;3:PUE;WUE;FEE;VEE",
    "LU;MI;REUX;RAE;NGUAET;kp;SHO;SHOQ;FU REMEDY;3:NA;PI;LOQ;KO;MEN;MA;MAQ;TEU;KI;MON;jx;FAQ;GHOM",
    "2:PHASE-F KA;U;KU;EE;REE;TAE;NYI;LA;RII;RIEE;MEEEE;TAA;NDAA;NJAEM;M;SUU;SHII;SI;SEUX;KYEE;KET",
    "NUAE;NU;NJUAE;YOQ;SHU;YA;NSHA;PEUX;NTEE;WUE;PEE;RU;NI;REUX;KEN;NGKWAEN;NGGA;SHO;PUAE;FOM;WA",
    "LI;LOQ;KO;MBEN;REN;MA;MO;MBAA;TET;KPA;SAMBA;VUEQ;@16A40 0:MRO aa TA;NGI;YO;MIM;BA;DA;A;PHI",
    "KHAI;HAO;DAI;CHU;KEAAE;OL;MAEM;NIN;PA;OO;O;RO;SHI;THEA;EA;WA;E;KO;LAN;LA;HAI;RI;TEK",
    "@16A60 1:cr ex;cs;co;aw;bt;by;fx;bv;br;dm;@16A6E 1:jc;al jc;0:TANGSA aa OZ;OC;OQ;OX;AZ;AC;AQ",
    "AX;VZ;VC;VQ;VX;EZ;EC;EQ;EX;IZ;IC;IQ;IX;UZ;UC;UQ;UX;AWZ;AWC;AWQ;AWX;UIZ;UIC;UIQ;UIX;ar NG",
    "2:fl UEX;2:fu UEZ;AWX;2:UEC;UEZ;UEQ;UEX;UIUZ;UIUC;UIUQ;UIUX;MZ;MC;MQ;MX;KA;lo;GA;kp;SA;YA;WA",
    "PA;lj;nx;BA;MA;NA;HA;LA;HTA;TA;DA;RA;NHA;kt;CA;zo;qq;HTTA;mh;XA;FA;po;lg;ZA;@16AC0 1:cr ex;cs",
    "co;aw;bt;by;fx;bv;br;dm;@16AD0 0:BASSA VAH aa ENNI;KA;SE;FA;MBE;YIE;GAH;DHII;KPAH;JO;HWAH;WA",
    "ZO;GBU;DO;CE;UWU;TO;BA;VU;YEIN;PA;WADDA;A;O;OO;U;EE;E;I;@16AF0 2:dj ga fi;3:is fi;3:MID fi",
    "3:LOW-MID fi;3:HIGH-LOW fi;2:if ge;@16B00 0:PAHAWH HMONG cm KEEB;KEEV;KIB;KIV;KAUB;KAUV;KUB",
    "KUV;KEB;KEV;KAIB;KAIV;KOOB;KOOV;KAWB;KAWV;KUAB;KUAV;KOB;KOV;KIAB;KIAV;KAB;KAV;KWB;KWV;KAAB",
    "KAAV;2:fq VAU;NTSAU;LAU;HAU;NLAU;RAU;NKAU;QHAU;YAU;HLAU;MAU;CHAU;NCHAU;HNAU;PLHAU;NTHAU;NAU",
    "AU;XAU;CAU;2:bj CIM TUB;SO;KES;KHAV;SUAM;HOM;TAUM;2:ak VOS THOM;TSHAB CEEB;3:CIM CHEEM",
    "3:VOS THIAB;FEEM;3:XYEEM NTXIV;RHO;TOV;FAIB;3:VOS SEEV;3:MEEJ SUAB;3:VOS NRUA;3:IB YAM;3:XAUS",
    "CIM TSOV ROG;@16B50 2:cr ex;cs;co;aw;bt;by;fx;bv;br;dm;@16B5B 2:dq TENS;HUNDREDS;jx nn;3:rz",
    "az rz;3:jx BILLIONS;3:TRILLIONS;@16B63 2:ak VOS LUB;3:XYOO;HLI;THIRD-STAGE HLI;3:ZWJ THAJ",
    "3:HNUB;NQIG;XIAB;NTUJ;AV;TXHEEJ CEEV;3:MEEJ TSEEB;3:TAU;LOS;MUS;CIM HAIS LUS NTOG NTOG",
    "4:CUAM TSHOOJ;4:TXWV;5:CHWV;4:PUB DAWB;4:NRES TOS;@16B7D 2:CLAN ak TSHEEJ;YEEG;LIS;LAUJ;XYOOJ",
    "KOO;HAWJ;MUAS;THOJ;TSAB;PHAB;KHAB;HAM;VAJ;FAJ;YAJ;TSWB;KWM;VWJ;@16E40 0:MEDEFAIDRIN ac aa M;S",
    "V;+;ATIU;Z;KP;P;T;G;F;I;K;A;J;E;B;+;U;YU;L;Q;HP;NY;X;D;OE;N;R;O;AI;Y;1:ad aa M;S;V;+;ATIU;Z",
    "KP;P;T;G;F;I;K;A;J;E;B;+;U;YU;L;Q;HP;NY;X;D;OE;N;R;O;AI;Y;1:cr ex;cs;co;aw;bt;by;fx;bv;br;dm",
    "1:dq jx;pr;np;qo;pv;nv;pd;nl;ob;qc;1:cr cs fp af;2:co fp af;2:aw fp af;1:et;if ge;1:au AIVA",
    "1:dw OH;@16F00 0:MIAO aa PA;BA;YI PA;2:PLA;MA;MHA;iv MA;2:FA;VA;VFA;TA;DA;YI pf;TA;2:pf;ph;NA",
    "NHA;YI qz;2:iv NA;2:qz;NNHA;LA;LYA;LHA;LHYA;TLHA;DLHA;TLHYA;DLHYA;KA;GA;YI KA;2:QA;QGA;kp",
    "NGHA;iv kp;2:HA;XA;qq;GHHA;TSSA;DZZA;lj;NYHA;zp;DZHA;YI zp;DZHA;2:REFORMED zp;2:kt;td;ZHA",
    "ZSHA;zo;DZA;YI zo;2:SA;ZA;ZSA;ZZA;ZZSA;iv ZZA;2:ZZYA;ZZSYA;WA;AH;HHA;BRI;SYI;DZYI;TE;TSE;RTE",
    "@16F4F 1:ak fq ev gf;1:aa yw;1:ak ASPIRATION;REFORMED VOICING;ASPIRATION;1:cm ak A;AA;AHH;AN",
    "ANG;O;OO;WO;W;E;EN;ENG;OEY;I;IA;IAN;IANG;IO;IE;II;IU;ING;U;UA;UAN;UANG;UU;UEI;UNG;Y;YI;AE;AEE",
    "ERR;pc ERR;3:ER;pc ER;3:AI;EI;AU;OU;N;NG;UOG;YUI;OG;OER;VW;IG;EA;IONG;UI;@16F8F 1:fi ai;se ai",
    "2:aj;aq;1:aa TONE-2;+6;REFORMED TONE-1;+;TONE-4;+2;TONE-8;@16FE0 0:TANGUT mb bj;0:NUSHU mb bj",
    "0:oh CHINESE bw bj;2:mb bj;0:KHITAN ad it uf;@16FF0 0:VIETNAMESE fp READING bj CA;NHAY",
    "@18800 0:TANGUT COMPONENT-001;+8;COMPONENT-010;+9;COMPONENT-020;+9;COMPONENT-030;+9",
    "COMPONENT-040;+9;COMPONENT-050;+9;COMPONENT-060;+9;COMPONENT-070;+9;COMPONENT-080;+9",
    "COMPONENT-090;+9;COMPONENT-100;+9;COMPONENT-110;+9;COMPONENT-120;+9;COMPONENT-130;+9",
    "COMPONENT-140;+9;COMPONENT-150;+9;COMPONENT-160;+9;COMPONENT-170;+9;COMPONENT-180;+9",
    "COMPONENT-190;+9;COMPONENT-200;+9;COMPONENT-210;+9;COMPONENT-220;+9;COMPONENT-230;+9",
    "COMPONENT-240;+9;COMPONENT-250;+9;COMPONENT-260;+9;COMPONENT-270;+9;COMPONENT-280;+9",
    "COMPONENT-290;+9;COMPONENT-300;+9;COMPONENT-310;+9;COMPONENT-320;+9;COMPONENT-330;+9",
    "COMPONENT-340;+9;COMPONENT-350;+9;COMPONENT-360;+9;COMPONENT-370;+9;COMPONENT-380;+9",
    "COMPONENT-390;+9;COMPONENT-400;+9;COMPONENT-410;+9;COMPONENT-420;+9;COMPONENT-430;+9",
    "COMPONENT-440;+9;COMPONENT-450;+9;COMPONENT-460;+9;COMPONENT-470;+9;COMPONENT-480;+9",
    "COMPONENT-490;+9;COMPONENT-500;+9;COMPONENT-510;+9;COMPONENT-520;+9;COMPONENT-530;+9",
    "COMPONENT-540;+9;COMPONENT-550;+9;COMPONENT-560;+9;COMPONENT-570;+9;COMPONENT-580;+9",
    "COMPONENT-590;+9;COMPONENT-600;+9;COMPONENT-610;+9;COMPONENT-620;+9;COMPONENT-630;+9",
    "COMPONENT-640;+9;COMPONENT-650;+9;COMPONENT-660;+9;COMPONENT-670;+9;COMPONENT-680;+9",
    "COMPONENT-690;+9;COMPONENT-700;+9;COMPONENT-710;+9;COMPONENT-720;+9;COMPONENT-730;+9",
    "COMPONENT-740;+9;COMPONENT-750;+9;COMPONENT-760;+8;@1AFF0 0:li aa MINNAN TONE-2;+3",
    "@1AFF5 TONE-7;+;NASALIZED TONE-1;+4;@1AFFD TONE-7;+;@1B000 2:iv E;0:uj aa iv YE",
    "0:HENTAIGANA aa A-1;+2;A-WO;I-1;+3;U-1;+4;E-2;+4;O-1;+2;KA-1;+8;KA-10;+;KA-KE;KI-1;+7;KU-1;+6",
    "KE-1;+5;KO-1;+2;KO-KI;SA-1;+7;SI-1;+5;SU-1;+7;SE-1;+4;SO-1;+6;TA-1;+3;TI-1;+6;TU-1;+3;TU-TO",
    "TE-1;+8;TO-1;+5;TO-RA;NA-1;+8;NI-1;+6;NI-TE;NU-1;+2;NE-1;+5;NE-KO;NO-1;+4;HA-1;+8;HA-10;+",
    "HI-1;+6;HU-1;+2;HE-1;+6;HO-1;+7;MA-1;+6;MI-1;+6;MU-1;+3;ME-1;+;ME-MA;MO-1;+5;YA-1;+4;YA-YO",
    "YU-1;+3;YO-1;+5;RA-1;+3;RI-1;+6;RU-1;+5;RE-1;+3;RO-1;+5;WA-1;+4;WI-1;+4;WE-1;+3;WO-1;+6",
    "N-MU-MO-1;+;0:uj aa iv WU;0:li aa iv YI;YE;WU;@1B150 0:uj aa ad WI;WE;WO;@1B164 0:li aa ad WI",
    "WE;WO;N;@1BC00 0:DUPLOYAN aa H;X;P;T;F;K;+;B;D;V;G;R;P N;2:D S;2:F N;2:K M;2:R S;2:TH",
    "SLOAN DH;2:DH;KK;SLOAN J;2:HL;LH;RH;M;+;J;S;M N;2:N M;2:J M;2:S J;2:M ab cy;2:N ab cy",
    "2:J ab cy;du kl bi aj;2:S ab cy;5:aq;2:M S;2:N S;2:J S;2:S S;2:M N S;2:N M S;2:J M S;2:S J S",
    "2:J S ab cy;3:N;4:S;2:S T;4:R;3:P;4:R;2:T S;R S;2:W;WH;W R;2:S N;M;2:K R S;2:G R S;2:S K;4:R",
    "2:A;SLOAN OW;2:OA;O;AOU;I;E;IE;fu I;2:UI;EE;SLOAN EH;2:ROMANIAN I;2:SLOAN EE;2:fl I;2:YE;U;EU",
    "XW;U N;2:fl U;2:ROMANIAN U;2:UH;SLOAN U;2:OOH;OW;OU;WA;WO;WI;WEI;WOW;NASAL U;O;I;A",
    "2:PERNIN AN;AM;2:SLOAN EN;AN;ON;2:cw M;@1BC70 1:AFFIX av as xd;2:MID as xd;2:ai as xd",
    "2:is an xd;2:MID an xd;2:ga an xd;2:tx xd;nw xd;3:TANGENT;hw;E bw;3:I bw;3:TANGENT bw",
    "@1BC80 2:ga db;TIGHT db;3:ef;fl ef;3:cy;bo;gw;ro;an;@1BC90 2:is db;TIGHT db;3:ef;fl ef;3:cy",
    "bo;gw;ro;an;ae;@1BC9C 1:ak O ab gr;1:THICK aa SELECTOR;1:al bj;1:cc CHINOOK if ge",
    "0:SHORTHAND FORMAT aa OVERLAP;2:CONTINUING OVERLAP;2:di STEP;2:UP STEP",
    "@1CF00 0:ZNAMENNY dj bj GORAZDO NIZKO S mn ON av;3:NIZKO S mn ON av;3:TSATA ON av",
    "3:GORAZDO NIZKO ON av;3:NIZKO ON av;3:SREDNE ON av;3:MALO mv ON av;3:mv ON av;3:VYSOKO ON av",
    "3:MALO mv S um ON av;3:mv S um ON av;3:VYSOKO S um ON av;3:GORAZDO NIZKO S mn ON ai",
    "3:NIZKO S mn ON ai;3:TSATA ON ai;3:GORAZDO NIZKO ON ai;3:NIZKO ON ai;3:SREDNE ON ai",
    "3:MALO mv ON ai;3:mv ON ai;3:VYSOKO ON ai;3:MALO mv S um ON ai;3:mv S um ON ai",
    "3:VYSOKO S um ON ai;3:TSATA S mn;3:MALO mv S mn;3:STRANNO MALO mv;3:mv S mn;4:STRANNO",
    "3:VYSOKO S mn;3:MALO mv STRANNO;3:GORAZDO VYSOKO;3:ZELO;ON;RAVNO;TIKHAYA;BORZAYA;UDARKA",
    "PODVERTKA;LOMKA;KUPNAYA;KACHKA;ZEVOK;SKOBA;RAZSEKA;KRYZH ON av",
    "@1CF30 2:TONAL RANGE bj MRACHNO;SVETLO;TRESVETLO;2:bj ZADERZHKA;DEMESTVENNY ZADERZHKA",
    "3:OTSECHKA;PODCHASHIE;4:ab an at;3:CHASHKA;4:POLNAYA;3:OBLACHKO;SOROCHYA NOZHKA;3:TOCHKA",
    "DVOETOCHIE;2:ATTACHING an OMET;2:bj rg OMET;3:KRYZH;2:cu TONAL RANGE nj;1:PRIZNAK ev LEVEL-2",
    "+;DIRECTION FLIP;3:KRYZH;ROG;@1CF50 1:NEUME KRYUK;3:TIKHY;2:PARAKLIT;DVA V CHELNU;2:KLYUCH",
    "ZANOZHEK;STOPITSA;3:S OCHKOM;2:PEREVODKA;3:ms;2:STOPITSA ab SOROCHYA NOZHKA;2:CHELYUSTKA",
    "PALKA;ns;GOLUBCHIK BORZY;TIKHY;MRACHNY;SVETLY;TRESVETLY;2:VRAKHIYA PROSTAYA;MRACHNAYA;qm;vi",
    "mc PROSTAYA;MRACHNAYA;qm;vi;2:al ns;2:bq CHELYUSTKA;2:DERBITSA;KHAMILO;CHASHKA;PODCHASHIE",
    "SKAMEYTSA MRACHNAYA;qm;vi;TIKHAYA;2:DEMESTVENNY KLYUCH;2:SKAMEYTSA mc qm;3:tr;mc TIKHAYA",
    "3:ye PROSTAYA;qm;ms;mc;2:SLOZHITIE;3:S vl;3:ZAKRYTOE;S mn;2:KRYZH;ROG;FITA;KOBYLA;ZMEYTSA",
    "STATYA;3:S vl;mn;vl I mn;4:mn I vl;3:ZAKRYTAYA;4:S vl;3:S ROGOM;DVUMYA ZAPYATYMI",
    "4:vl I PODCHASHIEM;2:POLKULIZMY;STATYA ms;2:STRELA PROSTAYA;MRACHNOTIKHAYA;KRYZHEVAYA",
    "POLUPOVODNAYA;POVODNAYA;ms;KLYUCHEPOVODNAYA;tr;TIKHAYA PUTNAYA;3:ye;DVOECHELNOKRYZHEVAYA;vw",
    "ye mc;3:vw mc;3:GROMNAYA ab de ns;3:px ab de ns;3:GROMNAYA;px;4:ab al ns;3:GROMOKRYZHEVAYA",
    "4:POVODNAYA;2:MECHIK;3:POVODNY;KLYUCHEVOY;KLYUCHEPOVODNY;KLYUCHENEPOSTOYANNY",
    "2:STRELA TRYASOGLASNAYA;TRYASOPOVODNAYA;TRYASOSTRELNAYA;2:OSOKA;3:qm;vi;KRYUKOVAYA qm;3:mc qm",
    "ms;2:STRELA KRYUKOVAYA;4:POVODNAYA;GROMNAYA ab de ns;4:px ab de ns;4:GROMNAYA;px;5:ab al ns",
    "4:GROMOKRYZHEVAYA;5:POVODNAYA;4:TRYASKA;2:KUFISMA;OBLAKO;DUDA;NEMKA;PAUK"]

end DenseSketch.Text.Name
