/-!
# Names of characters: East Asian signs and syllables, and more forms of letters

A table in the short form that `Text.Name` reads.  Data of the Unicode character database, version
14.
-/

namespace DenseSketch.Text.Name

/-- The names from U+3000 to U+FFFF. -/
def eastAsia : List String :=
  [
    "@3000 0:gt ll;et;if ge;0:DITTO bj;0:rx INDUSTRIAL STANDARD au;0:gt mb bj;1:CLOSING bj;1:dq ex",
    "0:av fr bd;0:ai fr bd;0:av al fr bd;0:ai al fr bd;0:av hb bd;0:ai hb bd;0:av bc hb bd",
    "0:ai bc hb bd;0:av ax lx bd;0:ai ax lx bd;0:POSTAL bj;0:GETA bj;0:av ib ky bd;0:ai ib ky bd",
    "0:av bc lx bd;0:ai bc lx bd;0:av bc ib ky bd;0:ai bc ib ky bd;0:av bc bn bd;0:ai bc bn bd",
    "0:ro jw;0:bq al uv eg bj;0:al uv eg bj;0:is al uv eg bj;0:POSTAL bj ds;0:HANGZHOU pb cs;co;aw",
    "bt;by;fx;bv;br;dm;0:gt LEVEL fi bj;1:op fi bj;1:DEPARTING fi bj;1:ENTERING fi bj",
    "0:ui de cy fi bj;1:al cy fi bj;0:WAVY jw;0:an KANA REPEAT bj;ab th ov bj;3:bj dr dg",
    "3:ab th ov bj dr dg;3:bj cu dg;0:dk POSTAL bj;0:gt TELEGRAPH gw FEED fh au;0:HANGZHOU pb jx",
    "fm;jk;0:an gt mb bj;0:MASU bj;0:PART ALTERNATION bj;0:gt vu nj;1:dg FILL ll",
    "@3041 0:uj aa ad A;2:A;ad I;2:I;ad U;2:U;ad E;2:E;ad O;2:O;KA;GA;KI;GI;KU;GU;KE;GE;KO;GO;SA",
    "ZA;SI;ZI;SU;ZU;SE;ZE;SO;ZO;TA;DA;TI;DI;ad TU;2:TU;DU;TE;DE;TO;DO;NA;NI;NU;NE;NO;HA;BA;PA;HI",
    "BI;PI;HU;BU;PU;HE;BE;PE;HO;BO;PO;MA;MI;MU;ME;MO;ad YA;2:YA;ad YU;2:YU;ad YO;2:YO;RA;RI;RU;RE",
    "RO;ad WA;2:WA;WI;WE;WO;N;VU;ad KA;KE;@3099 0:dj ko th ov bj;2:SEMI-VOICED ov bj;0:ko th ov bj",
    "1:SEMI-VOICED ov bj;0:uj mb bj;1:th mb bj;1:gm YORI;0:ko al py;0:li aa ad A;2:A;ad I;2:I;ad U",
    "2:U;ad E;2:E;ad O;2:O;KA;GA;KI;GI;KU;GU;KE;GE;KO;GO;SA;ZA;SI;ZI;SU;ZU;SE;ZE;SO;ZO;TA;DA;TI;DI",
    "ad TU;2:TU;DU;TE;DE;TO;DO;NA;NI;NU;NE;NO;HA;BA;PA;HI;BI;PI;HU;BU;PU;HE;BE;PE;HO;BO;PO;MA;MI",
    "MU;ME;MO;ad YA;2:YA;ad YU;2:YU;ad YO;2:YO;RA;RI;RU;RE;RO;ad WA;2:WA;WI;WE;WO;N;VU;ad KA;KE",
    "2:VA;VI;VE;VO;1:bb cy;0:ko PROLONGED ov bj;0:li mb bj;1:th mb bj;1:gm KOTO",
    "@3105 0:BOPOMOFO aa B;P;M;F;D;T;N;L;G;K;H;J;Q;X;ZH;CH;SH;R;Z;C;S;A;O;E;EH;AI;EI;AU;OU;AN;EN",
    "ANG;ENG;ER;I;U;IU;V;NG;GN;IH;O ab cy aj;2:NN;@3131 0:ui aa wu;ve;KIYEOK-SIOS;NIEUN;us;ut;xm",
    "vf;RIEUL;sy;uy;uz;xc;wh;wg;ux;MIEUM;PIEUP;xk;xb;SIOS;SSANGSIOS;IEUNG;CIEUC;xj;sm;ss;tg;sx",
    "HIEUH;A;AE;YA;YAE;EO;E;YEO;YE;O;WA;WAE;OE;YO;U;WEO;WE;WI;YU;EU;YI;I;1:uf;aa SSANGNIEUN;yx",
    "NIEUN-SIOS;NIEUN-PANSIOS;zf;zh;RIEUL-PIEUP-SIOS;RIEUL-PANSIOS;zi;MIEUM-PIEUP;MIEUM-SIOS",
    "MIEUM-PANSIOS;wb;PIEUP-KIYEOK;zd;zc;rb;PIEUP-CIEUC;PIEUP-THIEUTH;wc;wt;SIOS-KIYEOK;SIOS-NIEUN",
    "SIOS-TIKEUT;SIOS-PIEUP;SIOS-CIEUC;PANSIOS;SSANGIEUNG;YESIEUNG;YESIEUNG-SIOS;YESIEUNG-PANSIOS",
    "tj;SSANGHIEUH;YEORINHIEUH;YO-YA;YO-YAE;YO-I;YU-YEO;YU-YE;YU-I;ARAEA;ARAEAE",
    "@3190 0:gt ANNOTATION LINKING bj;2:ie bj;2:cs bj;2:co bj;2:aw bj;2:bt bj;2:se bj;2:bb bj",
    "2:ha bj;2:FIRST bj;2:SECOND bj;2:tm bj;2:FOURTH bj;2:HEAVEN bj;2:rr bj;2:MAN bj",
    "0:BOPOMOFO aa BU;ZI;JI;GU;EE;ENN;OO;ONN;IR;ANN;INN;UNN;IM;NGG;AINN;AUNN;AM;OM;ONG;INNN",
    "1:ar aa P;T;K;H;1:aa GH;LH;ZY;1:ar aa G;1:aa GW;KW;OE;AH;0:CJK at T;WG;XG;BXG;SW;HZZ;HZG;HP",
    "HZWG;SZWG;HZT;HZZP;HPWG;HZW;HZZZ;N;H;S;P;SP;D;HZ;HG;SZ;SWZ;ST;SG;PD;PZ;TN;SZZ;SWG;HXWG;HZZZG",
    "PG;Q;@31F0 0:li aa ad KU;SI;SU;TO;NU;HA;HI;HU;HE;HO;MU;RA;RI;RU;RE;RO;0:rm ui wu;NIEUN;xm",
    "RIEUL;MIEUM;PIEUP;SIOS;IEUNG;CIEUC;sm;ss;tg;sx;HIEUH;wu A;2:NIEUN A;2:xm A;2:RIEUL A",
    "2:MIEUM A;2:PIEUP A;2:SIOS A;2:IEUNG A;2:CIEUC A;2:sm A;2:ss A;2:tg A;2:sx A;2:HIEUH A",
    "2:CIEUC U;1:KOREAN ma OJEON;O HU;@3220 1:IDEOGRAPH cs;co;aw;bt;by;fx;bv;br;dm;jx;oo;FIRE;tn",
    "WOOD;METAL;rr;SUN;STOCK;HAVE;SOCIETY;NAME;SPECIAL;FINANCIAL;CONGRATULATION;LABOR;REPRESENT",
    "CALL;STUDY;SUPERVISE;ENTERPRISE;RESOURCE;ALLIANCE;FESTIVAL;uw;SELF;REACH;0:dk IDEOGRAPH fc",
    "KINDERGARTEN;SCHOOL;KOTO;1:dq jx ON ax bn;2:fm ON ax bn;2:jk ON ax bn;2:od ON ax bn",
    "2:im ON ax bn;2:ou ON ax bn;2:ff ON ax bn;2:mm ON ax bn;0:PARTNERSHIP ak;0:dk dq fm cs;co;aw",
    "bt;by;fx;bv;br;dm;2:jk;3:cs;co;aw;bt;by;1:ui wu;NIEUN;xm;RIEUL;MIEUM;PIEUP;SIOS;IEUNG;CIEUC",
    "sm;ss;tg;sx;HIEUH;wu A;2:NIEUN A;2:xm A;2:RIEUL A;2:MIEUM A;2:PIEUP A;2:SIOS A;2:IEUNG A",
    "2:CIEUC A;2:sm A;2:ss A;2:tg A;2:sx A;2:HIEUH A;1:KOREAN ma CHAMKO;JUEUI;1:ui IEUNG U",
    "0:KOREAN STANDARD au;0:dk IDEOGRAPH cs;co;aw;bt;by;fx;bv;br;dm;jx;oo;FIRE;tn;WOOD;METAL;rr",
    "SUN;STOCK;HAVE;SOCIETY;NAME;SPECIAL;FINANCIAL;CONGRATULATION;LABOR;SECRET;MALE;FEMALE",
    "SUITABLE;EXCELLENT;PRINT;ATTENTION;ITEM;uw;COPY;CORRECT;ga;dz;is;av;ai;MEDICINE;RELIGION",
    "STUDY;SUPERVISE;ENTERPRISE;RESOURCE;ALLIANCE;NIGHT;1:dq jk fx;bv;br;dm;2:od;3:cs;co;aw;bt;by",
    "fx;bv;br;dm;2:im;0:gt TELEGRAPH au tp JANUARY;FEBRUARY;MARCH;APRIL;MAY;JUNE;JULY;AUGUST",
    "SEPTEMBER;OCTOBER;NOVEMBER;DECEMBER;0:bn HG;ERG;EV;0:LIMITED LIABILITY ak;0:dk li A;I;U;E;O",
    "KA;KI;KU;KE;KO;SA;SI;SU;SE;SO;TA;TI;TU;TE;TO;NA;NI;NU;NE;NO;HA;HI;HU;HE;HO;MA;MI;MU;ME;MO;YA",
    "YU;YO;RA;RI;RU;RE;RO;WA;WI;WE;WO;0:bn ERA NAME REIWA;1:APAATO;ARUHUA;ANPEA;AARU;ININGU;INTI",
    "UON;ESUKUUDO;EEKAA;ONSU;OOMU;KAIRI;KARATTO;KARORII;GARON;GANMA;GIGA;GINII;KYURII;GIRUDAA;KIRO",
    "KIROGURAMU;KIROMEETORU;KIROWATTO;GURAMU;GURAMUTON;KURUZEIRO;KUROONE;KEESU;KORUNA;KOOPO",
    "SAIKURU;SANTIIMU;SIRINGU;SENTI;SENTO;DAASU;DESI;DORU;TON;NANO;NOTTO;HAITU;PAASENTO;PAATU",
    "BAARERU;PIASUTORU;PIKURU;PIKO;BIRU;HUARADDO;HUIITO;BUSSYERU;HURAN;HEKUTAARU;PESO;PENIHI",
    "HERUTU;PENSU;PEEZI;BEETA;POINTO;BORUTO;HON;PONDO;HOORU;HOON;MAIKURO;MAIRU;MAHHA;MARUKU",
    "MANSYON;MIKURON;MIRI;MIRIBAARU;MEGA;MEGATON;MEETORU;YAADO;YAARU;YUAN;RITTORU;RIRA;RUPII",
    "RUUBURU;REMU;RENTOGEN;WATTO;0:gt TELEGRAPH au tp HOUR ex;cs;co;aw;bt;by;fx;bv;br;dm;jx;pr;np",
    "qo;pv;nv;pd;nl;ob;qc;fm;TWENTY-ONE;TWENTY-TWO;TWENTY-THREE;TWENTY-FOUR;0:bn HPA;DA;AU;gf;OV",
    "PC;DM;2:fb;CUBED;1:IU;ERA NAME HEISEI;SYOUWA;TAISYOU;MEIZI;1:CORPORATION;PA AMPS;1:NA;MU A",
    "1:MA;KA;+;MB;GB;CAL;KCAL;PF;NF;MU F;+;1:MG;KG;HZ;KHZ;MHZ;GHZ;THZ;MU L;1:ML;DL;KL;FM;NM;MU M",
    "1:MM;CM;KM;MM fb;1:CM fb;1:M fb;1:KM fb;1:MM CUBED;1:CM CUBED;1:M CUBED;1:KM CUBED;1:M dy S",
    "4:fb;1:PA;KPA;MPA;GPA;RAD;2:dy S;4:fb;1:PS;NS;MU S;1:MS;PV;NV;MU V;1:MV;KV;MV MEGA;1:PW;NW",
    "MU W;1:MW;KW;MW MEGA;1:K OHM;1:M OHM;1:AM;BQ;CC;+;C dy KG;1:CO;DB;GY;HA;HP;IN;KK;KM ac;1:KT",
    "LM;+;LOG;LX;MB ad;1:MIL;MOL;PH;PM;PPM;PR;SR;SV;WB;V dy M;1:A dy M;0:gt TELEGRAPH au tp DAY cs",
    "co;aw;bt;by;fx;bv;br;dm;jx;pr;np;qo;pv;nv;pd;nl;ob;qc;fm;TWENTY-ONE;TWENTY-TWO;TWENTY-THREE",
    "TWENTY-FOUR;vj;TWENTY-SIX;TWENTY-SEVEN;TWENTY-EIGHT;TWENTY-NINE;jk;THIRTY-ONE;0:bn GAL",
    "@4DC0 0:HEXAGRAM tp ts CREATIVE HEAVEN;3:RECEPTIVE rr;2:DIFFICULTY AT ts BEGINNING",
    "2:YOUTHFUL FOLLY;2:WAITING;CONFLICT;ts ARMY;2:yl TOGETHER;2:ad TAMING;2:TREADING;PEACE",
    "STANDSTILL;FELLOWSHIP;GREAT POSSESSION;2:MODESTY;ENTHUSIASM;FOLLOWING;WORK ON ts DECAYED",
    "2:APPROACH;CONTEMPLATION;BITING lc;2:GRACE;SPLITTING APART;2:RETURN;INNOCENCE;GREAT TAMING",
    "2:md xy;2:GREAT PREPONDERANCE;2:ts ABYSMAL tn;3:CLINGING FIRE;2:INFLUENCE;DURATION;RETREAT",
    "GREAT POWER;2:PROGRESS;DARKENING OF ts cl;2:ts FAMILY;2:OPPOSITION;OBSTRUCTION;DELIVERANCE",
    "DECREASE;INCREASE;BREAKTHROUGH;COMING TO MEET;2:GATHERING TOGETHER;2:PUSHING UPWARD",
    "2:OPPRESSION;ts WELL;2:REVOLUTION;ts CAULDRON;AROUSING THUNDER;3:KEEPING STILL qa",
    "2:DEVELOPMENT;ts MARRYING MAIDEN;2:ABUNDANCE;ts WANDERER;GENTLE WIND;3:JOYOUS LAKE",
    "2:DISPERSION;LIMITATION;INNER TRUTH;2:ad PREPONDERANCE;2:AFTER COMPLETION;2:BEFORE COMPLETION",
    "@A000 0:YI iu IT;IX;I;IP;IET;IEX;IE;IEP;AT;AX;A;AP;UOX;UO;UOP;OT;OX;O;OP;EX;E;WU;BIT;BIX;BI",
    "BIP;BIET;BIEX;BIE;BIEP;BAT;BAX;BA;BAP;BUOX;BUO;BUOP;BOT;BOX;BO;BOP;BEX;BE;BEP;BUT;BUX;BU;BUP",
    "BURX;BUR;BYT;BYX;BY;BYP;BYRX;BYR;PIT;PIX;PI;PIP;PIEX;PIE;PIEP;PAT;PAX;PA;PAP;PUOX;PUO;PUOP",
    "POT;POX;PO;POP;PUT;PUX;PU;PUP;PURX;PUR;PYT;PYX;PY;PYP;PYRX;PYR;BBIT;BBIX;BBI;BBIP;BBIET;BBIEX",
    "BBIE;BBIEP;BBAT;BBAX;BBA;BBAP;BBUOX;BBUO;BBUOP;BBOT;BBOX;BBO;BBOP;BBEX;BBE;BBEP;BBUT;BBUX;BBU",
    "BBUP;BBURX;BBUR;BBYT;BBYX;BBY;BBYP;NBIT;NBIX;NBI;NBIP;NBIEX;NBIE;NBIEP;NBAT;NBAX;NBA;NBAP",
    "NBOT;NBOX;NBO;NBOP;NBUT;NBUX;NBU;NBUP;NBURX;NBUR;NBYT;NBYX;NBY;NBYP;NBYRX;NBYR;HMIT;HMIX;HMI",
    "HMIP;HMIEX;HMIE;HMIEP;HMAT;HMAX;HMA;HMAP;HMUOX;HMUO;HMUOP;HMOT;HMOX;HMO;HMOP;HMUT;HMUX;HMU",
    "HMUP;HMURX;HMUR;HMYX;HMY;HMYP;HMYRX;HMYR;MIT;MIX;MI;MIP;MIEX;MIE;MIEP;MAT;MAX;MA;MAP;MUOT",
    "MUOX;MUO;MUOP;MOT;MOX;MO;MOP;MEX;ME;MUT;MUX;MU;MUP;MURX;MUR;MYT;MYX;MY;MYP;FIT;FIX;FI;FIP;FAT",
    "FAX;FA;FAP;FOX;FO;FOP;FUT;FUX;FU;FUP;FURX;FUR;FYT;FYX;FY;FYP;VIT;VIX;VI;VIP;VIET;VIEX;VIE",
    "VIEP;VAT;VAX;VA;VAP;VOT;VOX;VO;VOP;VEX;VEP;VUT;VUX;VU;VUP;VURX;VUR;VYT;VYX;VY;VYP;VYRX;VYR",
    "DIT;DIX;DI;DIP;DIEX;DIE;DIEP;DAT;DAX;DA;DAP;DUOX;DUO;cy;DOX;DO;DOP;DEX;DE;DEP;DUT;DUX;DU;DUP",
    "DURX;DUR;TIT;TIX;TI;TIP;TIEX;TIE;TIEP;TAT;TAX;TA;TAP;TUOT;TUOX;TUO;TUOP;TOT;TOX;TO;se;TEX;TE",
    "TEP;TUT;TUX;TU;TUP;TURX;TUR;DDIT;DDIX;DDI;DDIP;DDIEX;DDIE;DDIEP;DDAT;DDAX;ph;DDAP;DDUOX;DDUO",
    "DDUOP;DDOT;DDOX;DDO;DDOP;DDEX;DDE;DDEP;DDUT;DDUX;DDU;DDUP;DDURX;DDUR;NDIT;NDIX;NDI;NDIP;NDIEX",
    "NDIE;NDAT;NDAX;NDA;NDAP;NDOT;NDOX;NDO;NDOP;NDEX;NDE;NDEP;NDUT;NDUX;NDU;NDUP;NDURX;NDUR;HNIT",
    "HNIX;HNI;HNIP;HNIET;HNIEX;HNIE;HNIEP;HNAT;HNAX;HNA;HNAP;HNUOX;HNUO;HNOT;HNOX;HNOP;HNEX;HNE",
    "HNEP;HNUT;NIT;NIX;NI;NIP;NIEX;NIE;NIEP;NAX;NA;NAP;NUOX;NUO;NUOP;mt;NOX;NO;NOP;NEX;NE;NEP;NUT",
    "NUX;NU;NUP;NURX;NUR;HLIT;HLIX;HLI;HLIP;HLIEX;HLIE;HLIEP;HLAT;HLAX;HLA;HLAP;HLUOX;HLUO;HLUOP",
    "HLOX;HLO;HLOP;HLEX;HLE;HLEP;HLUT;HLUX;HLU;HLUP;HLURX;HLUR;HLYT;HLYX;HLY;HLYP;HLYRX;HLYR;LIT",
    "LIX;LI;LIP;LIET;LIEX;LIE;LIEP;LAT;LAX;LA;LAP;LUOT;LUOX;LUO;LUOP;LOT;LOX;LO;LOP;LEX;LE;LEP;LUT",
    "LUX;LU;LUP;LURX;LUR;LYT;LYX;LY;LYP;LYRX;LYR;GIT;GIX;GI;GIP;GIET;GIEX;GIE;GIEP;GAT;GAX;GA;GAP",
    "GUOT;GUOX;GUO;GUOP;GOT;GOX;GO;GOP;GET;GEX;GE;GEP;GUT;GUX;GU;GUP;GURX;GUR;KIT;KIX;KI;KIP;KIEX",
    "KIE;KIEP;KAT;KAX;KA;KAP;KUOX;KUO;KUOP;KOT;KOX;KO;KOP;KET;KEX;KE;KEP;KUT;KUX;KU;KUP;KURX;KUR",
    "GGIT;GGIX;GGI;GGIEX;GGIE;GGIEP;GGAT;GGAX;GGA;GGAP;GGUOT;GGUOX;GGUO;GGUOP;GGOT;GGOX;GGO;GGOP",
    "GGET;GGEX;GGE;GGEP;GGUT;GGUX;GGU;GGUP;GGURX;GGUR;MGIEX;MGIE;MGAT;MGAX;MGA;MGAP;MGUOX;MGUO",
    "MGUOP;MGOT;MGOX;MGO;MGOP;MGEX;MGE;MGEP;MGUT;MGUX;MGU;MGUP;MGURX;MGUR;HXIT;HXIX;HXI;HXIP;HXIET",
    "HXIEX;HXIE;HXIEP;HXAT;HXAX;HXA;HXAP;HXUOT;HXUOX;HXUO;HXUOP;HXOT;HXOX;HXO;HXOP;HXEX;HXE;HXEP",
    "NGIEX;NGIE;NGIEP;NGAT;NGAX;kp;NGAP;NGUOT;NGUOX;NGUO;NGOT;NGOX;NGO;NGOP;NGEX;NGE;NGEP;HIT;HIEX",
    "HIE;HAT;HAX;HA;HAP;HUOT;HUOX;HUO;HUOP;HOT;HOX;HO;HOP;HEX;HE;HEP;WAT;WAX;WA;WAP;WUOX;WUO;WUOP",
    "WOX;WO;WOP;WEX;WE;WEP;ZIT;ZIX;ZI;ZIP;ZIEX;ZIE;ZIEP;ZAT;ZAX;ZA;ZAP;ZUOX;ZUO;ZUOP;ZOT;ZOX;ZO",
    "ZOP;ZEX;ZE;ZEP;ZUT;ZUX;ZU;ZUP;ZURX;ZUR;ZYT;ZYX;ZY;ZYP;ZYRX;ZYR;CIT;CIX;CI;CIP;CIET;CIEX;CIE",
    "CIEP;CAT;CAX;CA;CAP;CUOX;CUO;CUOP;COT;COX;CO;COP;CEX;CE;CEP;CUT;CUX;CU;CUP;CURX;CUR;CYT;CYX",
    "CY;CYP;CYRX;CYR;ZZIT;ZZIX;ZZI;ZZIP;ZZIET;ZZIEX;ZZIE;ZZIEP;ZZAT;ZZAX;ZZA;ZZAP;ZZOX;ZZO;ZZOP",
    "ZZEX;ZZE;ZZEP;ZZUX;ZZU;ZZUP;ZZURX;ZZUR;ZZYT;ZZYX;ZZY;ZZYP;ZZYRX;ZZYR;NZIT;NZIX;NZI;NZIP;NZIEX",
    "NZIE;NZIEP;NZAT;NZAX;NZA;NZAP;NZUOX;NZUO;NZOX;NZOP;NZEX;NZE;NZUX;NZU;NZUP;NZURX;NZUR;NZYT",
    "NZYX;NZY;NZYP;NZYRX;NZYR;SIT;fx;SI;SIP;SIEX;SIE;SIEP;SAT;SAX;SA;SAP;SUOX;SUO;SUOP;SOT;SOX;SO",
    "SOP;SEX;SE;SEP;SUT;SUX;SU;SUP;SURX;SUR;SYT;SYX;SY;SYP;SYRX;SYR;SSIT;SSIX;SSI;SSIP;SSIEX;SSIE",
    "SSIEP;SSAT;SSAX;td;SSAP;SSOT;SSOX;SSO;SSOP;SSEX;SSE;SSEP;SSUT;SSUX;SSU;SSUP;SSYT;SSYX;SSY",
    "SSYP;SSYRX;SSYR;ZHAT;ZHAX;ZHA;ZHAP;ZHUOX;ZHUO;ZHUOP;ZHOT;ZHOX;ZHO;ZHOP;ZHET;ZHEX;ZHE;ZHEP",
    "ZHUT;ZHUX;ZHU;ZHUP;ZHURX;ZHUR;ZHYT;ZHYX;ZHY;ZHYP;ZHYRX;ZHYR;CHAT;CHAX;lg;CHAP;CHUOT;CHUOX",
    "CHUO;CHUOP;CHOT;CHOX;CHO;CHOP;CHET;CHEX;CHE;CHEP;CHUX;CHU;CHUP;CHURX;CHUR;CHYT;CHYX;CHY;CHYP",
    "CHYRX;CHYR;RRAX;RRA;RRUOX;RRUO;RROT;RROX;RRO;RROP;RRET;RREX;RRE;RREP;RRUT;RRUX;RRU;RRUP;RRURX",
    "RRUR;RRYT;RRYX;RRY;RRYP;RRYRX;RRYR;NRAT;NRAX;NRA;NRAP;NROX;NRO;NROP;NRET;NREX;NRE;NREP;NRUT",
    "NRUX;NRU;NRUP;NRURX;NRUR;NRYT;NRYX;NRY;NRYP;NRYRX;NRYR;SHAT;SHAX;kt;SHAP;SHUOX;SHUO;SHUOP",
    "SHOT;SHOX;SHO;SHOP;SHET;SHEX;vy;SHEP;SHUT;SHUX;SHU;SHUP;SHURX;SHUR;SHYT;SHYX;SHY;SHYP;SHYRX",
    "SHYR;RAT;RAX;RA;RAP;RUOX;RUO;RUOP;ROT;ROX;RO;ROP;REX;RE;REP;RUT;RUX;RU;RUP;RURX;RUR;RYT;RYX",
    "RY;RYP;RYRX;RYR;JIT;JIX;JI;JIP;JIET;JIEX;JIE;JIEP;JUOT;JUOX;JUO;JUOP;JOT;JOX;JO;JOP;JUT;JUX",
    "JU;JUP;JURX;JUR;JYT;JYX;JY;JYP;JYRX;JYR;QIT;QIX;QI;QIP;QIET;QIEX;QIE;QIEP;QUOT;QUOX;QUO;QUOP",
    "QOT;QOX;QO;QOP;QUT;QUX;QU;QUP;QURX;QUR;QYT;QYX;QY;QYP;QYRX;QYR;JJIT;JJIX;JJI;JJIP;JJIET;JJIEX",
    "JJIE;JJIEP;JJUOX;JJUO;JJUOP;JJOT;JJOX;JJO;JJOP;JJUT;JJUX;JJU;JJUP;JJURX;JJUR;JJYT;JJYX;JJY",
    "JJYP;NJIT;NJIX;NJI;NJIP;NJIET;NJIEX;NJIE;NJIEP;NJUOX;NJUO;NJOT;NJOX;NJO;NJOP;NJUX;NJU;NJUP",
    "NJURX;NJUR;NJYT;NJYX;NJY;NJYP;NJYRX;NJYR;NYIT;NYIX;NYI;NYIP;NYIET;NYIEX;NYIE;NYIEP;NYUOX;NYUO",
    "NYUOP;NYOT;NYOX;NYO;NYOP;NYUT;NYUX;NYU;NYUP;XIT;XIX;XI;XIP;XIET;XIEX;XIE;XIEP;XUOX;XUO;XOT",
    "XOX;XO;XOP;XYT;XYX;XY;XYP;XYRX;XYR;YIT;YIX;YI;YIP;YIET;YIEX;YIE;YIEP;YUOT;YUOX;YUO;YUOP;YOT",
    "YOX;YO;YOP;YUT;YUX;YU;YUP;YURX;YUR;YYT;YYX;YY;YYP;YYRX;YYR;@A490 1:RADICAL QOT;LI;KIT;NYIP",
    "CYP;SSI;GGOP;GEP;MI;HXIT;LYR;BBUT;MOP;YO;PUT;HXUO;TAT;GA;ZUP;CYT;DDUR;BUR;GGUO;NYOP;TU;OP",
    "JJUT;ZOT;PYT;HMO;YIT;VUR;SHY;VEP;ZA;JO;NZUP;JJY;GOT;JJIE;WO;DU;SHUR;LIE;CY;CUOP;CIP;HXOP;SHAT",
    "ZUR;SHOP;CHE;ZZIET;NBIE;KE;@A4D0 0:LISU aa BA;PA;nx;DA;TA;mh;GA;KA;lo;JA;CA;lg;DZA;zo;zp;MA",
    "NA;LA;SA;ZHA;ZA;kp;HA;XA;HHA;FA;WA;kt;YA;qq;A;AE;E;EU;I;O;U;UE;UH;OE;fi MYA TI;3:NA PO",
    "3:MYA CYA;BO;NA;JEU;1:cc et;if ge;0:VAI iu EE;EEN;HEE;WEE;WEEN;PEE;BHEE;BEE;MBEE;KPEE;MGBEE",
    "GBEE;FEE;VEE;TEE;THEE;DHEE;DHHEE;LEE;REE;DEE;NDEE;SEE;SHEE;ZEE;ZHEE;CEE;JEE;NJEE;YEE;KEE",
    "NGGEE;GEE;MEE;NEE;NYEE;I;IN;HI;HIN;WI;WIN;PI;BHI;BI;MBI;KPI;MGBI;GBI;FI;VI;TI;THI;DHI;DHHI;LI",
    "RI;DI;NDI;SI;SHI;ZI;ZHI;CI;JI;NJI;YI;KI;NGGI;GI;MI;NI;NYI;A;AN;NGAN;HA;HAN;WA;WAN;PA;re;BA",
    "MBA;KPA;KPAN;MGBA;GBA;FA;VA;TA;mh;po;DHHA;LA;RA;DA;NDA;SA;kt;ZA;ZHA;CA;JA;NJA;YA;KA;KAN;NGGA",
    "GA;MA;NA;lj;OO;OON;HOO;WOO;WOON;POO;BHOO;BOO;MBOO;KPOO;MGBOO;GBOO;FOO;VOO;TOO;THOO;DHOO;DHHOO",
    "LOO;ROO;DOO;NDOO;SOO;SHOO;ZOO;ZHOO;COO;JOO;NJOO;YOO;KOO;NGGOO;GOO;MOO;NOO;NYOO;U;UN;HU;HUN;WU",
    "WUN;PU;BHU;BU;MBU;KPU;MGBU;GBU;FU;VU;TU;THU;DHU;DHHU;LU;RU;DU;NDU;SU;SHU;ZU;ZHU;CU;JU;NJU;YU",
    "KU;NGGU;GU;MU;NU;NYU;O;ON;NGON;HO;HON;WO;WON;PO;BHO;BO;MBO;KPO;MGBO;GBO;GBON;FO;VO;TO;THO;DHO",
    "DHHO;LO;RO;DO;NDO;SO;SHO;ZO;ZHO;CO;JO;NJO;YO;KO;NGGO;GO;MO;NO;NYO;E;EN;NGEN;HE;HEN;WE;WEN;PE",
    "BHE;BE;MBE;KPE;KPEN;MGBE;GBE;GBEN;FE;VE;TE;ts;DHE;DHHE;LE;RE;DE;NDE;SE;vy;ZE;ZHE;CE;JE;NJE;YE",
    "KE;NGGE;NGGEN;GE;GEN;ME;NE;NYE;NG;ww;1:et;if ge;1:fc bj;1:iu NDOLE FA;KA;SOO;1:au FEENG;KEENG",
    "TING;NII;BANG;FAA;TAA;DANG;DOONG;KUNG;TONG;DO-O;JONG;1:cr ex;cs;co;aw;bt;by;fx;bv;br;dm",
    "1:iu NDOLE MA;DO;@A640 0:jr ac aa ZEMLYA;1:ad aa ZEMLYA;1:ac aa DZELO;1:ad aa DZELO",
    "1:ac aa bq DZE;1:ad aa bq DZE;1:ac aa mg;1:ad aa mg;1:ac aa DJERV;1:ad aa DJERV",
    "1:ac aa MONOGRAPH UK;1:ad aa MONOGRAPH UK;1:ac aa BROAD hs;1:ad aa BROAD hs;1:ac aa hu YER",
    "1:ad aa hu YER;1:ac aa YERU ab BACK YER;1:ad aa YERU ab BACK YER;1:ac aa ir YAT",
    "1:ad aa ir YAT;1:ac aa bq YU;1:ad aa bq YU;1:ac aa ir A;1:ad aa ir A;1:ac aa gl ea zx",
    "1:ad aa gl ea zx;1:ac aa BLENDED zx;1:ad aa BLENDED zx;1:ac aa ir gl ea zx",
    "1:ad aa ir gl ea zx;1:ac aa YN;1:ad aa YN;1:ac aa bq TSE;1:ad aa bq TSE;1:ac aa SOFT DE",
    "1:ad aa SOFT DE;1:ac aa SOFT EL;1:ad aa SOFT EL;1:ac aa SOFT EM;1:ad aa SOFT EM",
    "1:ac aa MONOCULAR O;1:ad aa MONOCULAR O;1:ac aa BINOCULAR O;1:ad aa BINOCULAR O",
    "1:ac aa al MONOCULAR O;1:ad aa al MONOCULAR O;1:aa MULTIOCULAR O;0:dj jr VZMET;jx rz ak",
    "2:az rz ak;2:ba rz ak;0:SLAVONIC dh;0:dj jr aa UKRAINIAN IE;3:I;YI;U;HARD ak;3:YERU;SOFT ak",
    "3:hs;2:KAVYKA;PAYEROK;0:jr KAVYKA;PAYEROK;ac aa DWE;1:ad aa DWE;1:ac aa DZWE;1:ad aa DZWE",
    "1:ac aa ZHWE;1:ad aa ZHWE;1:ac aa CCHE;1:ad aa CCHE;1:ac aa DZZE;1:ad aa DZZE",
    "1:ac aa TE ab bb bw;1:ad aa TE ab bb bw;1:ac aa TWE;1:ad aa TWE;1:ac aa TSWE;1:ad aa TSWE",
    "1:ac aa TSSE;1:ad aa TSSE;1:ac aa TCHE;1:ad aa TCHE;1:ac aa HWE;1:ad aa HWE;1:ac aa SHWE",
    "1:ad aa SHWE;1:ac aa al O;1:ad aa al O;1:ac aa ln O;1:ad aa ln O;0:ev aa jr HARD ak;3:SOFT ak",
    "0:dj jr aa EF;ir E;0:BAMUM aa A;KA;U;KU;EE;REE;TAE;O;NYI;I;LA;PA;RII;RIEE;LEEEE;MEEEE;TAA",
    "NDAA;NJAEM;M;SUU;MU;SHII;SI;SHEUX;SEUX;KYEE;KET;NUAE;NU;NJUAE;YOQ;SHU;YUQ;YA;NSHA;KEUX;PEUX",
    "NJEE;NTEE;PUE;WUE;PEE;FEE;RU;LU;MI;NI;REUX;RAE;KEN;NGKWAEN;NGGA;kp;SHO;PUAE;FU;FOM;WA;NA;LI",
    "PI;LOQ;KO;MBEN;REN;MEN;MA;TI;KI;MO;MBAA;TET;KPA;jx;NTUU;SAMBA;FAAMAE;KOVUU;KOGHOM",
    "1:dj bj KOQNDON;TUKWENTIS;1:NJAEMLI;if ge;1:iw;et;jt;fc bj;@A700 0:ev aa CHINESE fi YIN PING",
    "4:YANG PING;4:YIN SHANG;4:YANG SHANG;4:YIN QU;4:YANG QU;4:YIN RU;4:YANG RU;2:wo fy fi gf",
    "2:ga fy fi gf;2:MID fy fi gf;2:is fy fi gf;2:EXTRA-LOW fy fi gf;2:wo fy lb fi gf",
    "2:ga fy lb fi gf;2:MID fy lb fi gf;2:is fy lb fi gf;2:EXTRA-LOW fy lb fi gf;2:wo lb fi gf",
    "2:ga lb fi gf;2:MID lb fi gf;2:is lb fi gf;2:EXTRA-LOW lb fi gf;2:cy an gf;3:qk;as gf",
    "2:cu ai hb fr;2:ig UP ae;3:di ae;3:dw bj;3:ca dw bj;2:is ca dw bj;2:STRESS bi ga fi;4:is fi",
    "0:ft ac aa rh ec;1:ad aa rh ec;1:ac aa rh vz;1:ad aa rh vz;1:ac aa HENG;1:ad aa HENG",
    "1:ac aa TZ;1:ad aa TZ;1:ac aa TRESILLO;1:ad aa TRESILLO;1:ac aa CUATRILLO;1:ad aa CUATRILLO",
    "1:ac aa CUATRILLO ab et;1:ad aa CUATRILLO ab et;1:aa ad ac F;S;1:ac aa AA;1:ad aa AA",
    "1:ac aa AO;1:ad aa AO;1:ac aa AU;1:ad aa AU;1:ac aa AV;1:ad aa AV;1:ac aa AV ab as gf",
    "1:ad aa AV ab as gf;1:ac aa AY;1:ad aa AY;1:ac aa bq C ab cy;1:ad aa bq C ab cy",
    "1:ac aa K ab at;1:ad aa K ab at;1:ac aa K ab dl at;1:ad aa K ab dl at",
    "1:ac aa K ab at bi dl at;1:ad aa K ab at bi dl at;1:ac aa BROKEN L;1:ad aa BROKEN L",
    "1:ac aa L ab ga at;1:ad aa L ab ga at;1:ac aa O ab fl at ho;1:ad aa O ab fl at ho",
    "1:ac aa O ab uq;1:ad aa O ab uq;1:ac aa OO;1:ad aa OO;1:ac aa P ab at lc dc",
    "1:ad aa P ab at lc dc;1:ac aa P ab yh;1:ad aa P ab yh;1:ac aa P ab SQUIRREL hw",
    "1:ad aa P ab SQUIRREL hw;1:ac aa Q ab at lc dc;1:ad aa Q ab at lc dc;1:ac aa Q ab dl at",
    "1:ad aa Q ab dl at;1:ac aa R ROTUNDA;1:ad aa R ROTUNDA;1:ac aa RUM ROTUNDA",
    "1:ad aa RUM ROTUNDA;1:ac aa V ab dl at;1:ad aa V ab dl at;1:ac aa VY;1:ad aa VY",
    "1:ac aa VISIGOTHIC Z;1:ad aa VISIGOTHIC Z;1:ac aa THORN ab at;1:ad aa THORN ab at",
    "1:ac aa THORN ab at lc dc;1:ad aa THORN ab at lc dc;1:ac aa VEND;1:ad aa VEND;1:ac aa ET",
    "1:ad aa ET;1:ac aa IS;1:ad aa IS;1:ac aa CON;1:ad aa CON;0:ev aa US;0:ft ad aa DUM;LUM;MUM",
    "NUM;RUM;1:aa ad ac RUM;1:ad aa TUM;UM;1:ac aa jd D;1:ad aa jd D;1:ac aa jd F;1:ad aa jd F",
    "1:ac aa jd G;3:ch jd G;1:ad aa ch jd G;1:ac aa ch L;1:ad aa ch L;1:ac aa jd R;1:ad aa jd R",
    "1:ac aa jd S;1:ad aa jd S;1:ac aa jd T;1:ad aa jd T;0:ev aa is be fs;2:iw;fu gn ak",
    "0:ft ac aa SALTILLO;1:ad aa SALTILLO;1:ac aa ch H;1:ad aa L ab cx bw bi BELT",
    "1:aa SINOLOGICAL cy;1:ac aa N ab dc;1:ad aa N ab dc;1:ac aa C ab gf;1:ad aa C ab gf;gh bw",
    "3:H ab gh bw;1:ac aa B ab yh;1:ad aa B ab yh;1:ac aa F ab at;1:ad aa F ab at;1:ac aa zs AE",
    "1:ad aa zs AE;1:ac aa zs OE;1:ad aa zs OE;1:ac aa zs UE;1:ad aa zs UE;1:ac aa G ab kr at",
    "1:ad aa G ab kr at;1:ac aa K ab kr at;1:ad aa K ab kr at;1:ac aa N ab kr at",
    "1:ad aa N ab kr at;1:ac aa R ab kr at;1:ad aa R ab kr at;1:ac aa S ab kr at",
    "1:ad aa S ab kr at;1:ac aa H ab bw;3:bq fg E;3:it G;3:L ab BELT;3:ad ac I;1:aa ad ac Q",
    "1:ac aa ch K;T;3:J ab jb;3:CHI;to;1:ad aa to;1:ac aa hs;1:ad aa hs;1:ac aa U ab at",
    "1:ad aa U ab at;1:ac aa go A;1:ad aa go A;1:ac aa go I;1:ad aa go I;1:ac aa go U;1:ad aa go U",
    "1:ac aa oh POLISH O;1:ad aa oh POLISH O;1:ac aa ANGLICANA W;1:ad aa ANGLICANA W",
    "1:ac aa C ab gh bw;3:S ab bw;3:Z ab gh bw;3:D ab fu at ho;1:ad aa D ab fu at ho",
    "1:ac aa S ab fu at ho;1:ad aa S ab fu at ho;@A7D0 1:ac aa gl jd G;1:ad aa gl jd G",
    "@A7D3 3:al THORN;@A7D5 WYNN;1:ac aa bb SCOTS S;1:ad aa bb SCOTS S;1:ac aa SIGMOID S",
    "1:ad aa SIGMOID S;@A7F2 0:ev aa ac C;F;Q;0:ft ac aa bq dg H;1:ad aa bq dg H",
    "1:EPIGRAPHIC aa ok I;0:ev aa ac H ab at;2:ad em OE;0:ft aa ad ac ch M;1:EPIGRAPHIC aa bq F;P",
    "3:ca M;3:I LONGA;3:iv M;0:SYLOTI NAGRI aa A;I;2:ak DVISVARA;2:aa U;E;O;2:ak HASANTA;2:aa KO",
    "KHO;GO;GHO;2:ak ct;2:aa CO;CHO;JO;JHO;TTO;TTHO;DDO;DDHO;TO;THO;DO;DHO;NO;PO;PHO;BO;BHO;MO;RO",
    "LO;RRO;SO;HO;2:cm ak A;I;U;E;OO;2:POETRY MARK-1;+3;2:ak fp HASANTA;@A830 0:gi INDIC hq cs fk",
    "dg;3:aw ji;3:cs sc;hy;3:aw xi;2:fk bj;2:PLACEHOLDER bj;2:RUPEE bj;2:QUANTITY bj",
    "@A840 0:PHAGS-PA aa KA;lo;GA;kp;CA;lg;JA;lj;TA;mh;DA;NA;PA;nx;BA;MA;zo;zp;DZA;WA;ZHA;ZA;ad A",
    "2:YA;RA;LA;kt;SA;HA;A;I;U;E;O;QA;XA;FA;GGA;EE;1:sd aa WA;YA;1:aa pf;jv;ph;qz;fp YA",
    "2:VOICELESS kt;2:th HA;2:ASPIRATED FA;1:sd aa RA;1:SUPERFIXED aa RA;1:aa df;1:de tq bj",
    "1:al tq bj;1:bj xf;al xf;@A880 0:SAURASHTRA ak ct;ew;1:aa A;AA;I;II;U;UU;cw R;RR;L;LL;2:E;EE",
    "AI;O;OO;AU;KA;lo;GA;qq;kp;CA;lg;JA;ul;lj;pf;jv;ph;ka;qz;TA;mh;DA;po;NA;PA;nx;BA;re;MA;YA;RA",
    "LA;VA;kt;td;SA;HA;LLA;1:fq ak HAARU;1:cm ak AA;I;II;U;UU;cw R;RR;L;LL;3:E;EE;AI;O;OO;AU",
    "1:ak fn;df;@A8CE 1:jc;al jc;1:cr ex;cs;co;aw;bt;by;fx;bv;br;dm;@A8E0 0:dj DEVANAGARI cr ex;cs",
    "co;aw;bt;by;fx;bv;br;dm;2:aa A;U;KA;NA;PA;RA;VI;2:ak io;0:DEVANAGARI ak SPACING df;2:df fn",
    "2:al df fn;2:df co;aw;io;2:PUSHPIKA;1:GAP uf;1:xu;HEADSTROKE;ak vq;1:JAIN OM;1:aa AY",
    "1:cm ak AY;0:KAYAH LI cr ex;cs;co;aw;bt;by;fx;bv;br;dm;2:aa KA;lo;GA;kp;SA;kt;ZA;lj;TA;HTA;NA",
    "PA;nx;MA;DA;BA;RA;YA;LA;WA;mh;HA;VA;CA;A;OE;I;OO;2:cm UE;E;U;EE;O;2:fi PLOPHU;CALYA;4:PLOPHU",
    "2:ak CWI;SHYA;0:REJANG aa KA;GA;kp;TA;DA;NA;PA;BA;MA;CA;JA;lj;SA;RA;LA;YA;WA;HA;MBA;NGGA;NDA",
    "NYJA;A;1:cm ak I;U;E;AI;O;AU;EU;EA;1:fq ak NG;N;R;H;1:fn;@A95F hi bj",
    "0:ui CHOSEONG TIKEUT-MIEUM;TIKEUT-PIEUP;TIKEUT-SIOS;TIKEUT-CIEUC;sy;zg;zh;RIEUL-SSANGTIKEUT",
    "uy;uz;RIEUL-SSANGPIEUP;vx;xc;RIEUL-CIEUC;RIEUL-KHIEUKH;MIEUM-KIYEOK;MIEUM-TIKEUT;MIEUM-SIOS",
    "PIEUP-SIOS-THIEUTH;PIEUP-KHIEUKH;PIEUP-HIEUH;SSANGSIOS-PIEUP;IEUNG-RIEUL;IEUNG-HIEUH",
    "SSANGCIEUC-HIEUH;SSANGTHIEUTH;PHIEUPH-HIEUH;HIEUH-SIOS;SSANGYEORINHIEUH",
    "@A980 0:JAVANESE ak PANYANGGA;CECAK;LAYAR;WIGNYAN;1:aa A;I KAWI;2:I;II;U;PA CEREK;2:kp LELET",
    "4:RASWADI;2:E;AI;O;KA;3:SASAK;wd;2:GA;3:wd;2:kp;CA;3:wd;2:JA;lj wd;2:JA nk;2:lj;pf;3:nk;2:ph",
    "3:nk;2:NA wd;2:TA;3:wd;2:DA;3:nk;2:NA;PA;3:wd;2:BA;3:wd;2:MA;YA;RA;3:AGUNG;2:LA;WA;SA wd;nk",
    "2:SA;HA;1:ak CECAK TELU;1:cm ak TARUNG;TOLONG;WULU;4:MELIK;3:SUKU;4:MENDUT;3:TALING",
    "DIRGA MURE;3:PEPET;1:fq ak KERET;PENGKAL;CAKRA;1:PANGKON;av RERENGGAN;1:ai RERENGGAN",
    "1:PADA ANDAP;MADYA;LUHUR;WINDU;PANGKAT;LINGSA;LUNGSI;ADEG;3:ADEG;2:PISELEH;1:ch PADA PISELEH",
    "@A9CF 1:PANGRANGKEP;cr ex;cs;co;aw;bt;by;fx;bv;br;dm;@A9DE 1:PADA TIRTA TUMETES;2:ISEN-ISEN",
    "0:MYANMAR aa SHAN qq;lg;ul;qz;re;1:ak SHAN SAW;1:ev aa SHAN REDUPLICATION;1:aa TAI LAING lj",
    "FA;GA;qq;JA;ul;ph;ka;qz;1:TAI LAING cr ex;cs;co;aw;bt;by;fx;bv;br;dm;1:aa TAI LAING LLA;DA;po",
    "BA;re;@AA00 0:CHAM aa A;I;U;E;AI;O;KA;lo;GA;qq;NGUE;kp;lg;CHHA;JA;ul;NHUE;NHA;NHJA;TA;mh;DA",
    "po;NUE;NA;ph;PA;PPA;nx;BA;re;MUE;MA;BBA;YA;RA;LA;VA;td;SA;HA;1:cm ak AA;I;II;EI;U;OE;O;AI;AU",
    "UE;1:fq ak YA;RA;LA;WA;@AA40 1:aa ar K;G;NG;1:fq ak ar NG;1:aa ar CH;T;N;P;Y;R;L;SS",
    "1:fq ak ar M;H;@AA50 1:cr ex;cs;co;aw;bt;by;fx;bv;br;dm;@AA5C 1:cc SPIRAL;jc;al jc;2:es jc",
    "0:MYANMAR aa KHAMTI GA;CA;lg;JA;ul;lj;pf;jv;ph;ka;po;NA;SA;HA;HHA;FA",
    "1:ev aa KHAMTI REDUPLICATION;1:aa KHAMTI XA;ZA;RA;1:yt KHAMTI OAY;QN;HM;1:au AITON dw;cs;co",
    "1:aa AITON RA;1:ak PAO KAREN fi;2:TAI LAING TONE-2;TONE-5;1:aa SHWE PALAUNG lg;kt",
    "0:TAI VIET aa is KO;3:ga KO;3:is KHO;3:ga KHO;3:is KHHO;3:ga KHHO;3:is GO;3:ga GO;3:is NGO",
    "3:ga NGO;3:is CO;3:ga CO;3:is CHO;3:ga CHO;3:is SO;3:ga SO;3:is NYO;3:ga NYO;3:is DO;3:ga DO",
    "3:is TO;3:ga TO;3:is THO;3:ga THO;3:is NO;3:ga NO;3:is BO;3:ga BO;3:is PO;3:ga PO;3:is PHO",
    "3:ga PHO;3:is FO;3:ga FO;3:is MO;3:ga MO;3:is YO;3:ga YO;3:is RO;3:ga RO;3:is LO;3:ga LO",
    "3:is VO;3:ga VO;3:is HO;3:ga HO;3:is O;3:ga O;2:MAI KANG;2:cm AA;I;UE;U;E;O;2:MAI KHIT",
    "2:cm IA;UEA;UA;AUE;AY;AN;AM;2:fi MAI EK;NUENG;THO;SONG;@AADB 2:au KON;NUENG;SAM;HO HOI",
    "3:KOI KOI;0:MEETEI MAYEK aa E;O;lg;lj;pf;jv;ph;ka;qz;kt;td;2:cm ak II;UU;AAI;AU;AAU",
    "2:CHEIKHAN;AHANG KHUDAM;2:ANJI;iu REPETITION bj;2:zt REPETITION bj;2:cm ak ew;2:fn",
    "@AB01 0:ETHIOPIC iu TTHU;TTHI;TTHAA;TTHEE;TTHE;TTHO;@AB09 DDHU;DDHI;DDHAA;DDHEE;DDHE;DDHO",
    "@AB11 DZU;DZI;DZAA;DZEE;DZE;DZO;@AB20 CCHHA;CCHHU;CCHHI;CCHHAA;CCHHEE;CCHHE;CCHHO;@AB28 BBA",
    "BBU;BBI;BBAA;BBEE;BBE;BBO;@AB30 0:ft ad aa sh ik;3:A REVERSED-SCHWA;3:BLACKLETTER E;3:sh E",
    "3:E ab yh;3:LENIS F;3:it G ab jb;3:L ab ca LAZY S;5:al bb cq;5:bb ei;3:M ab jb;3:N ab jb",
    "3:ENG ab jb;3:BLACKLETTER O;5:ab at;3:fg O ab at;3:ca OE;3:ch OE ab at;as at;4:O OPEN-O",
    "6:ab at;3:STIRRUP R;1:aa ad ac R ab ai LEG;1:ad aa R WITHOUT HANDLE;3:al R;3:R ab jb",
    "3:al R ab jb;3:it R;5:ab ei;3:BASELINE ESH;3:U ab fu ai LEG;4:gf ab fu ai LEG;3:UI;ch UI",
    "3:U ab av bw;3:CHI;4:ab is ai ei;6:av SERIF;3:X ab is ai ei;5:fl av LEG;8:bi is ai ei",
    "8:ab SERIF;3:Y ab fu ai LEG;0:ev fd ab ca fd;1:aa ad HENG;L ab ca LAZY S;5:bb cq;3:U ab av bw",
    "0:ft ad aa SAKHA YAT;3:ir E;3:fg OE;3:UO;ca ik;0:kn aa ad ac hs;0:ft ad aa DZ gm ab cx bw",
    "3:TS gm ab cx bw;3:ch R ab bb cq;0:ev aa ad ch W;2:av lf;2:ai lf;@AB70 0:CHEROKEE ad aa A;E;I",
    "O;U;+;GA;KA;GE;GI;GO;GU;+;HA;HE;HI;HO;HU;+;LA;LE;LI;LO;LU;+;MA;ME;MI;MO;MU;NA;HNA;NAH;NE;NI",
    "NO;NU;+;QUA;QUE;QUI;QUO;QUU;+;SA;S;SE;SI;SO;SU;+;DA;TA;DE;TE;DI;TI;DO;DU;+;DLA;TLA;TLE;TLI",
    "TLO;TLU;+;zo;TSE;TSI;TSO;TSU;+;WA;WE;WI;WO;WU;+;YA;0:MEETEI MAYEK aa KOK;SAM;LAI;MIT;PA;NA",
    "CHIL;TIL;KHOU;NGOU;THOU;WAI;YANG;HUK;UN;I;PHAM;ATIYA;GOK;JHAM;RAI;BA;JIL;DIL;GHOU;DHOU;BHAM",
    "KOK wx;3:LAI wx;3:MIT wx;3:PA wx;3:NA wx;3:TIL wx;3:NGOU wx;3:I wx;2:cm ak ONAP;INAP;ANAP",
    "YENAP;SOUNAP;UNAP;CHEINAP;NUNG;2:CHEIKHEI;LUM IYEK;2:APUN IYEK;@ABF0 2:cr ex;cs;co;aw;bt;by",
    "fx;bv;br;dm;@D7B0 0:ui JUNGSEONG O-YEO;O-O-I;YO-A;YO-AE;YO-EO;U-YEO;U-I-I;YU-AE;YU-O;EU-A",
    "EU-EO;EU-E;EU-O;I-YA-O;I-YAE;I-YEO;I-YE;I-O-I;I-YO;I-YU;I-I;ARAEA-A;ARAEA-E",
    "@D7CB 1:JONGSEONG NIEUN-RIEUL;NIEUN-CHIEUCH;vf;SSANGTIKEUT-PIEUP;TIKEUT-PIEUP;TIKEUT-SIOS",
    "TIKEUT-SIOS-KIYEOK;TIKEUT-CIEUC;TIKEUT-CHIEUCH;TIKEUT-THIEUTH;zg;RIEUL-KIYEOK-HIEUH",
    "SSANGRIEUL-KHIEUKH;RIEUL-MIEUM-HIEUH;RIEUL-PIEUP-TIKEUT;RIEUL-PIEUP-PHIEUPH;RIEUL-YESIEUNG",
    "RIEUL-YEORINHIEUH-HIEUH;KAPYEOUNRIEUL;MIEUM-NIEUN;MIEUM-SSANGNIEUN;SSANGMIEUM",
    "MIEUM-PIEUP-SIOS;MIEUM-CIEUC;zd;PIEUP-RIEUL-PHIEUPH;PIEUP-MIEUM;xk;rb;PIEUP-CIEUC",
    "PIEUP-CHIEUCH;SIOS-MIEUM;SIOS-KAPYEOUNPIEUP;SSANGSIOS-KIYEOK;SSANGSIOS-TIKEUT;SIOS-PANSIOS",
    "SIOS-CIEUC;SIOS-CHIEUCH;SIOS-THIEUTH;SIOS-HIEUH;PANSIOS-PIEUP;PANSIOS-KAPYEOUNPIEUP",
    "YESIEUNG-MIEUM;YESIEUNG-HIEUH;CIEUC-PIEUP;CIEUC-SSANGPIEUP;xj;PHIEUPH-SIOS;PHIEUPH-THIEUTH",
    "@FB00 0:ft ad em FF;FI;FL;FFI;FFL;fl S T;3:ST;@FB13 0:xq ad em MEN NOW;ECH;INI;3:VEW NOW",
    "3:MEN XEH;@FB1D 0:HEBREW aa YOD ab HIRIQ;1:tl JUDEO-SPANISH VARIKA;1:em YIDDISH YOD YOD PATAH",
    "1:aa ALTERNATIVE AYIN;2:WIDE ec;DALET;HE;yp;LAMED;ar MEM;3:RESH;TAV;2:ALTERNATIVE cz ak",
    "2:mw ab mw cy;4:SIN cy;4:ix bi mw cy;6:SIN cy;2:ec ab PATAH;QAMATS;MAPIQ;2:BET ab ix",
    "2:pw ab ix;2:DALET ab ix;2:HE ab MAPIQ;2:VAV ab ix;2:sg ab ix;@FB38 2:TET ab ix;2:YOD ab ix",
    "2:ar yp ab ix;2:yp ab ix;2:LAMED ab ix;@FB3E 2:MEM ab ix;@FB40 2:qr ab ix;2:lz ab ix",
    "@FB43 2:ar PE ab ix;2:PE ab ix;@FB46 2:TSADI ab ix;2:QOF ab ix;2:RESH ab ix;2:mw ab ix",
    "2:TAV ab ix;2:VAV ab HOLAM;2:BET ab RAFE;2:yp ab RAFE;2:PE ab RAFE;1:em ec LAMED",
    "0:kk aa ec WASLA ag af;4:ar af;2:BEEH ag af;3:ar af;3:ap af;3:cf af;2:PEH ag af;3:ar af",
    "3:ap af;3:cf af;2:BEHEH ag af;3:ar af;3:ap af;3:cf af;2:TTEHEH ag af;3:ar af;3:ap af;3:cf af",
    "2:TEHEH ag af;3:ar af;3:ap af;3:cf af;2:TTEH ag af;3:ar af;3:ap af;3:cf af;2:VEH ag af",
    "3:ar af;3:ap af;3:cf af;2:PEHEH ag af;3:ar af;3:ap af;3:cf af;2:DYEH ag af;3:ar af;3:ap af",
    "3:cf af;2:NYEH ag af;3:ar af;3:ap af;3:cf af;2:TCHEH ag af;3:ar af;3:ap af;3:cf af",
    "2:TCHEHEH ag af;3:ar af;3:ap af;3:cf af;2:DDAHAL ag af;3:ar af;2:DAHAL ag af;3:ar af",
    "2:DUL ag af;3:ar af;2:DDAL ag af;3:ar af;2:JEH ag af;3:ar af;2:RREH ag af;3:ar af",
    "2:KEHEH ag af;3:ar af;3:ap af;3:cf af;2:GAF ag af;3:ar af;3:ap af;3:cf af;2:GUEH ag af",
    "3:ar af;3:ap af;3:cf af;2:NGOEH ag af;3:ar af;3:ap af;3:cf af;2:ke GHUNNA ag af;4:ar af",
    "2:RNOON ag af;3:ar af;3:ap af;3:cf af;2:zw ab hl aj ag af;6:ar af;3:GOAL ag af;4:ar af",
    "4:ap af;4:cf af;3:DOACHASHMEE ag af;4:ar af;4:ap af;4:cf af;2:hl BARREE ag af;4:ar af",
    "4:ab hz aj ag af;7:ar af;1:au cy aj;aq;2:co du aj;aq;2:aw du aj;aq;cb ay aj;aq;2:bt du aj;aq",
    "2:al an gf aq;2:co du nq aj;aq;2:ei;ad TAH aj;aq;2:WASLA aj;@FBD3 1:aa NG ag af;3:ar af",
    "3:ap af;3:cf af;2:U ag af;3:ar af;2:OE ag af;3:ar af;2:YU ag af;3:ar af;2:U ab hz aj ag af",
    "2:VE ag af;3:ar af;2:KIRGHIZ OE ag af;4:ar af;3:YU ag af;4:ar af;2:E ag af;3:ar af;3:ap af",
    "3:cf af;2:UIGHUR KAZAKH KIRGHIZ ec ci ap af;7:cf af;1:em hl ab hz aj ab ec ag af;8:ar af",
    "7:AE ag af;8:ar af;7:tt ag af;8:ar af;7:U ag af;8:ar af;7:OE ag af;8:ar af;7:YU ag af;8:ar af",
    "7:E ag af;8:ar af;8:ap af;2:UIGHUR KIRGHIZ hl ab hz aj ab ec ci ag af;11:ar af;11:ap af",
    "1:aa FARSI hl ag af;4:ar af;4:ap af;4:cf af;1:em hl ab hz aj ab fj ag af;7:iz ag af",
    "7:cv ag af;7:ec ci ag af;7:hl ag af;2:BEH ab fj ag af;4:iz ag af;4:ia ag af;4:cv ag af",
    "4:ec ci ag af;4:hl ag af;2:TEH ab fj ag af;4:iz ag af;4:ia ag af;4:cv ag af;4:ec ci ag af",
    "4:hl ag af;2:THEH ab fj ag af;4:cv ag af;4:ec ci ag af;4:hl ag af;2:fj ab iz ag af;4:cv ag af",
    "2:iz ab fj ag af;4:cv ag af;2:ia ab fj ag af;4:iz ag af;4:cv ag af;2:oj ab fj ag af",
    "4:iz ag af;4:ia ag af;4:cv ag af;2:SAD ab iz ag af;4:cv ag af;2:DAD ab fj ag af;4:iz ag af",
    "4:ia ag af;4:cv ag af;2:TAH ab iz ag af;4:cv ag af;2:ZAH ab cv ag af;2:vz ab fj ag af",
    "4:cv ag af;2:ot ab fj ag af;4:cv ag af;2:FEH ab fj ag af;4:iz ag af;4:ia ag af;4:cv ag af",
    "4:ec ci ag af;4:hl ag af;2:QAF ab iz ag af;4:cv ag af;4:ec ci ag af;4:hl ag af",
    "2:yp ab ec ag af;4:fj ag af;4:iz ag af;4:ia ag af;4:tu ag af;4:cv ag af;4:ec ci ag af",
    "4:hl ag af;2:tu ab fj ag af;4:iz ag af;4:ia ag af;4:cv ag af;4:ec ci ag af;4:hl ag af",
    "2:cv ab fj ag af;4:iz ag af;4:ia ag af;4:cv ag af;4:ec ci ag af;4:hl ag af;2:ke ab fj ag af",
    "4:iz ag af;4:ia ag af;4:cv ag af;4:ec ci ag af;4:hl ag af;2:zw ab fj ag af;4:cv ag af",
    "4:ec ci ag af;4:hl ag af;2:hl ab fj ag af;4:iz ag af;4:ia ag af;4:cv ag af;4:ec ci ag af",
    "4:hl ag af;2:THAL ab hm ec ag af;2:xo ab hm ec ag af;2:ec ci ab hm ec ag af",
    "2:SHADDA ab yb ag af;4:yq ag af;4:ud ag af;4:ya ag af;4:tk ag af;4:hm ec ag af",
    "2:hl ab hz aj ab xo ar af;7:zv ar af;7:cv ar af;7:ke ar af;7:ec ci ar af;7:hl ar af",
    "2:BEH ab xo ar af;4:zv ar af;4:cv ar af;4:ke ar af;4:ec ci ar af;4:hl ar af;2:TEH ab xo ar af",
    "4:zv ar af;4:cv ar af;4:ke ar af;4:ec ci ar af;4:hl ar af;2:THEH ab xo ar af;4:zv ar af",
    "4:cv ar af;4:ke ar af;4:ec ci ar af;4:hl ar af;2:FEH ab ec ci ar af;4:hl ar af",
    "2:QAF ab ec ci ar af;4:hl ar af;2:yp ab ec ar af;4:tu ar af;4:cv ar af;4:ec ci ar af",
    "4:hl ar af;2:tu ab cv ar af;4:ec ci ar af;4:hl ar af;2:cv ab ec ar af;4:cv ar af",
    "2:ke ab xo ar af;4:zv ar af;4:cv ar af;4:ke ar af;4:ec ci ar af;4:hl ar af",
    "2:ec ci ab hm ec ar af;2:hl ab xo ar af;4:zv ar af;4:cv ar af;4:ke ar af;4:ec ci ar af",
    "4:hl ar af;4:hz aj ab fj ap af;7:iz ap af;7:ia ap af;7:cv ap af;7:zw ap af;2:BEH ab fj ap af",
    "4:iz ap af;4:ia ap af;4:cv ap af;4:zw ap af;2:TEH ab fj ap af;4:iz ap af;4:ia ap af",
    "4:cv ap af;4:zw ap af;2:THEH ab cv ap af;2:fj ab iz ap af;4:cv ap af;2:iz ab fj ap af",
    "4:cv ap af;2:ia ab fj ap af;4:cv ap af;2:oj ab fj ap af;4:iz ap af;4:ia ap af;4:cv ap af",
    "2:SAD ab iz ap af;4:ia ap af;4:cv ap af;2:DAD ab fj ap af;4:iz ap af;4:ia ap af;4:cv ap af",
    "2:TAH ab iz ap af;2:ZAH ab cv ap af;2:vz ab fj ap af;4:cv ap af;2:ot ab fj ap af;4:cv ap af",
    "2:FEH ab fj ap af;4:iz ap af;4:ia ap af;4:cv ap af;2:QAF ab iz ap af;4:cv ap af",
    "2:yp ab fj ap af;4:iz ap af;4:ia ap af;4:tu ap af;4:cv ap af;2:tu ab fj ap af;4:iz ap af",
    "4:ia ap af;4:cv ap af;4:zw ap af;2:cv ab fj ap af;4:iz ap af;4:ia ap af;4:cv ap af",
    "2:ke ab fj ap af;4:iz ap af;4:ia ap af;4:cv ap af;4:zw ap af;2:zw ab fj ap af;4:cv ap af",
    "4:hm ec ap af;2:hl ab fj ap af;4:iz ap af;4:ia ap af;4:cv ap af;4:zw ap af",
    "4:hz aj ab cv cf af;7:zw cf af;2:BEH ab cv cf af;4:zw cf af;2:TEH ab cv cf af;4:zw cf af",
    "2:THEH ab cv cf af;4:zw cf af;2:oj ab cv cf af;4:zw cf af;2:na ab cv cf af;4:zw cf af",
    "2:yp ab tu cf af;4:cv cf af;2:tu ab cv cf af;2:ke ab cv cf af;4:zw cf af;2:hl ab cv cf af",
    "4:zw cf af;2:SHADDA ab ud cf af;4:ya cf af;4:tk cf af;2:TAH ab ec ci ag af;4:hl ag af",
    "2:vz ab ec ci ag af;4:hl ag af;2:ot ab ec ci ag af;4:hl ag af;2:oj ab ec ci ag af;4:hl ag af",
    "2:na ab ec ci ag af;4:hl ag af;2:iz ab ec ci ag af;4:hl ag af;2:fj ab ec ci ag af;4:hl ag af",
    "2:ia ab ec ci ag af;4:hl ag af;2:SAD ab ec ci ag af;4:hl ag af;2:DAD ab ec ci ag af",
    "4:hl ag af;2:na ab fj ag af;4:iz ag af;4:ia ag af;4:cv ag af;4:xo ag af;2:oj ab xo ag af",
    "2:SAD ab xo ag af;2:DAD ab xo ag af;2:TAH ab ec ci ar af;4:hl ar af;2:vz ab ec ci ar af",
    "4:hl ar af;2:ot ab ec ci ar af;4:hl ar af;2:oj ab ec ci ar af;4:hl ar af;2:na ab ec ci ar af",
    "4:hl ar af;2:iz ab ec ci ar af;4:hl ar af;2:fj ab ec ci ar af;4:hl ar af;2:ia ab ec ci ar af",
    "4:hl ar af;2:SAD ab ec ci ar af;4:hl ar af;2:DAD ab ec ci ar af;4:hl ar af;2:na ab fj ar af",
    "4:iz ar af;4:ia ar af;4:cv ar af;4:xo ar af;2:oj ab xo ar af;2:SAD ab xo ar af",
    "2:DAD ab xo ar af;2:na ab fj ap af;4:iz ap af;4:ia ap af;4:cv ap af;2:oj ab zw ap af",
    "2:na ab zw ap af;2:TAH ab cv ap af;2:oj ab fj cf af;4:iz cf af;4:ia cf af;2:na ab fj cf af",
    "4:iz cf af;4:ia cf af;2:TAH ab cv cf af;2:ZAH ab cv cf af;2:ec ab ue ar af;5:ag af",
    "0:ORNATE av cd;1:ai cd;0:kk em RAHIMAHU ALLAAH;2:RADI ALLAAHU ANH;ANHAA;ANHUM;ANHUMAA;ANHUNNA",
    "2:SALLALLAAHU ALAYHI WA-AALIH;2:ALAYHI zy;2:ALAYHIM zy;2:ALAYHIMAA zy",
    "2:ALAYHI AS-SALAATU WAS-SALAAM;2:QUDDISA SIRRAH;2:SALLALLAHU ALAYHI WAAALIHEE WA-SALLAM",
    "2:ALAYHAA zy;2:TABAARAKA WA-TAAALAA;2:RAHIMAHUM ALLAAH;2:TEH ab fj ab cv ap af",
    "4:iz ab fj ar af;7:ap af;6:cv ap af;4:ia ab cv ap af;4:cv ab fj ap af;6:iz ap af;6:ia ap af",
    "2:fj ab cv ab iz ar af;7:ap af;2:iz ab cv ab hl ar af;6:ec ci ar af;2:oj ab iz ab fj ap af",
    "4:fj ab iz ap af;6:ec ci ar af;4:cv ab iz ar af;7:ap af;6:fj ap af;6:cv ar af;7:ap af",
    "2:SAD ab iz ab iz ar af;7:ap af;4:cv ab cv ar af;2:na ab iz ab cv ar af;7:ap af",
    "4:fj ab hl ar af;4:cv ab ia ar af;7:ap af;6:cv ar af;7:ap af;2:DAD ab iz ab ec ci ar af",
    "4:ia ab cv ar af;7:ap af;2:TAH ab cv ab iz ar af;7:ap af;6:cv ap af;6:hl ar af",
    "2:vz ab fj ab cv ar af;4:cv ab cv ar af;7:ap af;6:ec ci ar af;2:ot ab cv ab cv ar af",
    "6:hl ar af;6:ec ci ar af;2:FEH ab ia ab cv ar af;7:ap af;2:QAF ab cv ab iz ar af;6:cv ar af",
    "2:tu ab iz ab cv ar af;6:hl ar af;6:ec ci ar af;4:fj ab fj ap af;7:ar af;4:ia ab cv ar af",
    "7:ap af;4:cv ab iz ar af;7:ap af;2:cv ab iz ab fj ap af;6:cv ap af;6:hl ar af",
    "4:fj ab iz ap af;6:cv ap af;4:ia ab fj ap af;6:cv ap af;@FD92 4:fj ab ia ap af",
    "2:zw ab cv ab fj ap af;6:cv ap af;2:ke ab iz ab cv ap af;6:ec ci ar af;4:fj ab cv ar af",
    "7:ap af;6:ec ci ar af;4:cv ab hl ar af;6:ec ci ar af;2:hl ab cv ab cv ar af;7:ap af",
    "2:BEH ab ia ab hl ar af;2:TEH ab fj ab hl ar af;6:ec ci ar af;4:ia ab hl ar af;6:ec ci ar af",
    "4:cv ab hl ar af;6:ec ci ar af;2:fj ab cv ab hl ar af;4:iz ab ec ci ar af;4:cv ab ec ci ar af",
    "2:oj ab ia ab ec ci ar af;2:SAD ab iz ab hl ar af;2:na ab iz ab hl ar af",
    "2:DAD ab iz ab hl ar af;2:tu ab fj ab hl ar af;4:cv ab hl ar af;2:hl ab iz ab hl ar af",
    "4:fj ab hl ar af;4:cv ab hl ar af;2:cv ab cv ab hl ar af;2:QAF ab cv ab hl ar af",
    "2:ke ab iz ab hl ar af;2:QAF ab cv ab iz ap af;2:tu ab iz ab cv ap af;2:vz ab cv ab hl ar af",
    "2:yp ab cv ab hl ar af;2:ke ab fj ab iz ap af;2:cv ab ia ab hl ar af;2:tu ab fj ab cv ap af",
    "2:yp ab cv ab cv ar af;2:tu ab fj ab cv ar af;2:ke ab fj ab iz ar af;2:fj ab iz ab hl ar af",
    "2:iz ab fj ab hl ar af;2:cv ab fj ab hl ar af;2:FEH ab cv ab hl ar af;2:BEH ab iz ab hl ar af",
    "2:yp ab cv ab cv ap af;2:vz ab fj ab cv ap af;2:SAD ab cv ab cv ap af;2:oj ab ia ab hl ar af",
    "2:ke ab fj ab hl ar af;@FDCF 2:SALAAMUHU ALAYNAA;@FDF0 2:SALLA USED AS KORANIC ge ak ag af",
    "2:QALA USED AS KORANIC ge ak ag af;2:ALLAH ag af;2:AKBAR ag af;2:MOHAMMAD ag af;2:SALAM ag af",
    "2:RASOUL ag af;2:ALAYHE ag af;2:WASALLAM ag af;2:SALLA ag af;2:SALLALLAHOU ALAYHE WASALLAM",
    "2:JALLAJALALOUHOU;0:RIAL ak;0:kk em BISMILLAH AR-RAHMAN AR-RAHEEM;2:SUBHAANAHU WA TAAALAA",
    "2:AZZA WA JALL;0:vu SELECTOR-1;+8;SELECTOR-10;+6;0:ze af tp an et;gt et;if ge;4:iw;jt;dw bj",
    "4:fc bj;4:av bc lx bd;4:ai bc lx BRAKCET;4:as ps;@FE20 0:dj em av dg;2:ai dg;1:al cq av dg",
    "3:ai dg;1:dp av dg;2:ai dg;1:CONJOINING dp;1:em av dg aq;2:ai dg aq;1:cq av dg aq;2:ai dg aq",
    "1:dp av dg aq;2:ai dg aq;1:CONJOINING dp aq;1:jr TITLO av dg;3:ai dg",
    "0:ze af tp an co cy LEADER;4:EM jw;4:EN jw;4:is gw;4:WAVY is gw;4:av cd;4:ai cd;4:av kc bd",
    "4:ai kc bd;4:av ib ky bd;4:ai ib ky bd;4:av ax lx bd;4:ai ax lx bd;4:av al fr bd",
    "4:ai al fr bd;4:av fr bd;4:ai fr bd;4:av hb bd;4:ai hb bd;4:av bc hb bd;4:ai bc hb bd",
    "0:SESAME cy;0:bc SESAME cy;0:ze af tp an av bn bd;4:ai bn bd;0:on qg;0:CENTRELINE qg",
    "0:WAVY qg;0:al WAVY qg;0:on is gw;0:CENTRELINE is gw;0:WAVY is gw;0:ad et;gt et;1:if ge",
    "@FE54 1:jt;iw;fc bj;1:dw bj;1:EM jw;1:av cd;1:ai cd;1:av kc bd;1:ai kc bd;1:av ib ky bd",
    "1:ai ib ky bd;1:dq ak;1:nd;dh;cz ak;1:sq;bu ak;1:bh ak;1:gn ak;@FE68 1:ie hj;1:DOLLAR ak",
    "1:PERCENT ak;1:sn AT;@FE70 0:kk ue ag af;1:TATWEEL ab ue aj;1:yb ag af;1:hw FRAGMENT",
    "1:yq ag af;@FE76 1:ud ag af;2:cf af;1:ya ag af;2:cf af;1:tk ag af;2:cf af;1:SHADDA ag af",
    "2:cf af;1:SUKUN ag af;2:cf af;1:aa hz ag af;2:ec ab MADDA aj ag af;6:ar af;4:hz aj ag af",
    "6:ar af;2:tt ab hz aj ag af;6:ar af;2:ec ab hz aq ag af;6:ar af;2:hl ab hz aj ag af;6:ar af",
    "6:ap af;6:cf af;2:ec ag af;3:ar af;2:BEH ag af;3:ar af;3:ap af;3:cf af;2:TEH MARBUTA ag af",
    "4:ar af;3:ag af;3:ar af;3:ap af;3:cf af;2:THEH ag af;3:ar af;3:ap af;3:cf af;2:fj ag af",
    "3:ar af;3:ap af;3:cf af;2:iz ag af;3:ar af;3:ap af;3:cf af;2:ia ag af;3:ar af;3:ap af;3:cf af",
    "2:DAL ag af;3:ar af;2:THAL ag af;3:ar af;2:xo ag af;3:ar af;2:zv ag af;3:ar af;2:oj ag af",
    "3:ar af;3:ap af;3:cf af;2:na ag af;3:ar af;3:ap af;3:cf af;2:SAD ag af;3:ar af;3:ap af",
    "3:cf af;2:DAD ag af;3:ar af;3:ap af;3:cf af;2:TAH ag af;3:ar af;3:ap af;3:cf af;2:ZAH ag af",
    "3:ar af;3:ap af;3:cf af;2:vz ag af;3:ar af;3:ap af;3:cf af;2:ot ag af;3:ar af;3:ap af;3:cf af",
    "2:FEH ag af;3:ar af;3:ap af;3:cf af;2:QAF ag af;3:ar af;3:ap af;3:cf af;2:yp ag af;3:ar af",
    "3:ap af;3:cf af;2:tu ag af;3:ar af;3:ap af;3:cf af;2:cv ag af;3:ar af;3:ap af;3:cf af",
    "2:ke ag af;3:ar af;3:ap af;3:cf af;2:zw ag af;3:ar af;3:ap af;3:cf af;2:tt ag af;3:ar af",
    "2:ec ci ag af;4:ar af;2:hl ag af;3:ar af;3:ap af;3:cf af;1:em tu ab ec ab MADDA aj ag af",
    "8:ar af;6:hz aj ag af;8:ar af;7:aq ag af;8:ar af;5:ag af;5:ar af;@FEFF 0:ex WIDTH NO-BREAK ll",
    "@FF01 0:FULLWIDTH dw bj;1:eg bj;1:dq ak;1:DOLLAR ak;1:PERCENT ak;1:nd;ku;av cd;1:ai cd;1:dh",
    "cz ak;1:et;sq;if ge;1:hj;cr ex;cs;co;aw;bt;by;fx;bv;br;dm;1:iw;jt;bu ak;1:gn ak;1:bh ak",
    "1:fc bj;1:sn AT;1:ft ac aa A;+25;1:av bn bd;1:ie hj;1:ai bn bd;1:be fs;1:is gw;1:ef fs",
    "1:ft ad aa A;+25;1:av kc bd;1:an gw;1:ai kc bd;1:cq;av bc cd;1:ai bc cd;0:HALFWIDTH gt if ge",
    "1:av hb bd;1:ai hb bd;1:gt et;1:li bb cy;2:aa WO;ad A;I;U;E;O;YA;YU;YO;TU",
    "1:ko PROLONGED ov bj;1:li aa A;I;U;E;O;KA;KI;KU;KE;KO;SA;SI;SU;SE;SO;TA;TI;TU;TE;TO;NA;NI;NU",
    "NE;NO;HA;HI;HU;HE;HO;MA;MI;MU;ME;MO;YA;YU;YO;RA;RI;RU;RE;RO;WA;N;2:th ov bj",
    "2:SEMI-VOICED ov bj;1:ui uf;aa wu;ve;KIYEOK-SIOS;NIEUN;us;ut;xm;vf;RIEUL;sy;uy;uz;xc;wh;wg;ux",
    "MIEUM;PIEUP;xk;xb;SIOS;SSANGSIOS;IEUNG;CIEUC;xj;sm;ss;tg;sx;HIEUH;@FFC2 A;AE;YA;YAE;EO;E",
    "@FFCA YEO;YE;O;WA;WAE;OE;@FFD2 YO;U;WEO;WE;WI;YU;@FFDA EU;YI;I;@FFE0 0:FULLWIDTH CENT ak",
    "1:POUND ak;1:mt ak;1:dp;BROKEN gf;1:YEN ak;1:WON ak;@FFE8 0:HALFWIDTH FORMS cl an;1:am ae",
    "1:bp ae;1:ah ae;1:ay ae;1:ax bn;1:bc bo;@FFF9 0:INTERLINEAR ANNOTATION ANCHOR;fh;TERMINATOR",
    "0:OBJECT REPLACEMENT ma;0:REPLACEMENT ma"]

end DenseSketch.Text.Name
